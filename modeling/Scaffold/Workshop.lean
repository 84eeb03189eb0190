import Scaffold.Pattern
import Scaffold.Session

namespace Scaffold

/-!
# From requests to written projects

A workshop turns a request into files in three steps: the pattern makes a
context of the decisions, the templates of the library are rendered, and
the files are written. When a step fails the steps after it do nothing, so
a request either leads to all of its files or to none.
-/

/-- What a project is made from: a checked request or data that may be one. -/
inductive Request
  | checked (config : PatternConfig)
  | data (d : Datum)

namespace Request

def config : Request → Except ValidationError PatternConfig
  | .checked config => .ok config
  | .data d => PatternConfig.ofDatum d

/-- The name of the pattern as it is announced, before anything is checked. -/
def announcedName : Request → Except Fault String
  | .checked config => .ok config.patternName
  | .data d =>
    if d.isMapping then .ok ((d.item? "patternName").elim "?" Datum.text)
    else .error (.noOperation "get" d.ownType)

end Request

/-- What comes of a request. -/
structure Product where
  pattern : String
  files : FileSet
  warnings : List String
  /-- Where the files were written. -/
  written : List Location := []
  deriving DecidableEq, Repr

/-- What is needed to turn requests into projects. -/
structure Workshop where
  settings : Settings
  builder : Builder
  library : Library
  /-- What stops every concurrent run, if something does. -/
  stop? : Option Interruption := none

namespace Workshop

/-- The workshop of settings, with the built-in patterns. -/
def standard (s : Settings) : Workshop where
  settings := s
  builder := .standard
  library := ⟨s.templates, .standard⟩

def assembler (w : Workshop) : Assembler :=
  ⟨w.settings.render.mode, w.settings.render.stripPaths⟩

def project (w : Workshop) (r : Request) : Except Failure Project :=
  (r.config.mapError .request).map w.builder.project

def libraryFailure : LibraryError → Failure
  | .flaw f => .library f
  | .text e => .unreadable e

def templates (w : Workshop) (t : FileTree) (cwd : Location) : Except Failure TemplateSet := do
  let entries ← (w.library.load t cwd).mapError libraryFailure
  (w.library.templateSet entries).mapError .fault

/-- The files of a set, in a concurrent run that keeps to the settings. -/
def assembleConcurrently (w : Workshop) (set : TemplateSet) (c : Context) :
    Except RunFailure FileSet :=
  match w.stop? with
  | some i => .error (.interrupted i)
  | none =>
    let run : Run :=
      { workers := w.settings.assembly.workers.map fun n => (n.count : Int)
        limit := w.settings.assembly.limit.map fun limit => .fraction limit.seconds }
    run.assemble w.assembler set c

/-- The files of a set, one after the other. -/
def assembleInOrder (w : Workshop) (set : TemplateSet) (c : Context) :
    Except RunFailure FileSet :=
  (w.assembler.assemble set c).mapError .assembly

/-- What comes of a request. The templates are those of the library unless others are given. -/
def make (w : Workshop) (assemble : TemplateSet → Context → Except RunFailure FileSet)
    (t : FileTree) (cwd : Location) (r : Request) (set? : Option TemplateSet) :
    Except Failure Product := do
  let project ← w.project r
  let set ← (set?.map .ok).getD (w.templates t cwd)
  let files ← (assemble set project.toContext).mapError .run
  pure ⟨project.pattern, files, project.warnings, []⟩

def generate (w : Workshop) : FileTree → Location → Request → Option TemplateSet →
    Except Failure Product :=
  w.make w.assembleInOrder

def generateConcurrently (w : Workshop) : FileTree → Location → Request → Option TemplateSet →
    Except Failure Product :=
  w.make w.assembleConcurrently

/-- Writes the files of a product, and then the settings that were used. -/
def write (w : Workshop) (p : Product) : Action Product := do
  let written ← Action.change .write fun t cwd =>
    Writer.write ⟨w.settings.output.namesFrom cwd, w.settings.overwrite⟩ t p.files
  let _ ← Action.change .save fun t cwd => w.settings.save t cwd none
  pure { p with written := written }

/-- Saves the report of a failed run, and gives the path that it is saved under. -/
def saveReport (w : Workshop) (r : Report) (path? : Option PathName) : Action PathName := do
  let target := path?.getD w.settings.reportPath
  Action.change .save fun t cwd => ConfigFile.saveJson .pretty t cwd target r.toDatum
  pure target

/-! ## The whole run -/

/-- Where the output directory is. -/
def outputText (w : Workshop) (t : FileTree) (cwd : Location) : Except Failure String :=
  if w.settings.output.hasZero then .error (.fault .zeroByte)
  else
    match t.resolve (w.settings.output.namesFrom cwd) with
    | .place l => .ok (Location.text l)
    | .loop l => .error (.write (.linkLoop l))

def announcement (w : Workshop) (pattern output : String) : Shown :=
  .panel "[bold]Generation Start[/bold]"
    ("\n".intercalate
      [ "[bold bright_cyan]Scaffold Engine[/bold bright_cyan]"
      , s!"Pattern   : {pattern}"
      , s!"Templates : {w.library.directory.text}"
      , s!"Output    : {output}"
      , s!"Mode      : {w.settings.render.mode.name}" ])

def summary (p : Product) (dryRun : Bool) (elapsed : Seconds) : Shown :=
  .summary "Generation Summary"
    [ ("Pattern", p.pattern)
    , ("Files", toString p.files.size)
    , ("Written", if dryRun then "no (dry run)" else toString p.written.length)
    , ("Warnings", toString p.warnings.length)
    , ("Duration", elapsed.format?.getD "") ]

/-- Does all steps and shows what is done. A dry run writes nothing. -/
def run (w : Workshop) (r : Request) (dryRun : Bool) (elapsed : Seconds) : Action Product := do
  let session ← get
  let pattern ← Action.ofExcept (r.announcedName.mapError .fault)
  let output ← Action.ofExcept <|
    if dryRun then .ok "(dry run)" else w.outputText session.tree session.workingDirectory
  Action.tell (w.announcement pattern output)
  Action.tell (.header "Assemble")
  let product ← Action.ofExcept
    (w.generateConcurrently session.tree session.workingDirectory r none)
  product.warnings.forM fun warning => Action.tell (.warning s!"Warning: {warning}")
  let product ←
    if dryRun then pure product
    else do
      Action.tell (.header "Write")
      w.write product
  Action.tell (.fileSet product.files)
  Action.tell (summary product dryRun elapsed)
  pure product

end Workshop

end Scaffold
