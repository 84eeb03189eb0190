import Scaffold.ConfigFile
import Scaffold.Template.Render
import Scaffold.Validation.Field

namespace Scaffold

/-!
# Settings

The settings of a generation: where templates come from and files go, how
templates are rendered, and how much a run may use. They come from a saved
file or from variables of the environment, and each run saves the ones it
used beside the files that it wrote.
-/

/-- A number of workers: at least one. -/
structure WorkerCount where
  count : Nat
  count_pos : 0 < count
  deriving DecidableEq, Repr

/-- A time limit in seconds, above zero. -/
structure TimeLimit where
  seconds : Double
  above_zero : seconds.le .zero = false
  deriving DecidableEq, Repr

namespace WorkerCount

def ofInt? (n : Int) : Option WorkerCount :=
  if h : 0 < n.toNat then some ⟨n.toNat, h⟩ else none

/-- A whole number that is at least one. -/
def check (n : Int) : Reading WorkerCount :=
  (ofInt? n).elim (.error .atLeast) .ok

def read (d : Datum) : Reading WorkerCount :=
  Reading.whole d >>= check

end WorkerCount

namespace TimeLimit

def ofDouble? (x : Double) : Option TimeLimit :=
  if h : x.le .zero = false then some ⟨x, h⟩ else none

/-- A double that is not zero or below. -/
def check (x : Double) : Reading TimeLimit :=
  (ofDouble? x).elim (.error .above) .ok

def read (d : Datum) : Reading TimeLimit :=
  Reading.double d >>= check

end TimeLimit

/-- How templates are rendered. -/
structure RenderSettings where
  mode : RenderMode := .strict
  /-- Remove blanks around rendered paths. -/
  stripPaths : Bool := true
  deriving DecidableEq, Repr

namespace RenderSettings

def title : String := "RenderConfig"

def check (d : Datum) : Checked RenderSettings :=
  let mode := Checked.field "mode" (Reading.choice RenderMode.ofName?) .strict d
  let strip := Checked.field "strip_paths" Reading.condition true d
  (mode.both strip).map fun (mode, strip) => ⟨mode, strip⟩

/-- Reads a record of its own. -/
def read (d : Datum) : Except ValidationError RenderSettings :=
  (check d).titled title

def toDatum (s : RenderSettings) : Datum :=
  .map [(.str "mode", .str s.mode.name), (.str "strip_paths", .bool s.stripPaths)]

end RenderSettings

/-- How much a concurrent run may use. -/
structure AssemblySettings where
  workers : Option WorkerCount := none
  limit : Option TimeLimit := none
  deriving DecidableEq, Repr

namespace AssemblySettings

def title : String := "AssemblyConfig"

def check (d : Datum) : Checked AssemblySettings :=
  let workers := Checked.field "max_workers" (Reading.optional WorkerCount.read) none d
  let limit := Checked.field "timeout" (Reading.optional TimeLimit.read) none d
  (workers.both limit).map fun (workers, limit) => ⟨workers, limit⟩

def read (d : Datum) : Except ValidationError AssemblySettings :=
  (check d).titled title

def toDatum (s : AssemblySettings) : Datum :=
  .map
    [ (.str "max_workers", (s.workers.map fun w => Datum.int w.count).getD .null)
    , (.str "timeout", (s.limit.map fun l => Datum.float l.seconds).getD .null) ]

end AssemblySettings

/-- The settings of a generation. -/
structure Settings where
  templates : PathName
  output : PathName
  overwrite : Bool
  render : RenderSettings
  assembly : AssemblySettings
  deriving DecidableEq, Repr

inductive SettingsError
  | text (e : TextError)
  | invalid (e : ValidationError)
  deriving DecidableEq, Repr

namespace Settings

def title : String := "EngineConfig"

/-- The directory for files, if none is named. -/
def usualOutput : PathName := .ofNames ["output"]

/-- The settings that hold where nothing is said, `bundle` being the usual templates. -/
def standard (bundle : PathName) : Settings :=
  ⟨bundle, usualOutput, false, {}, {}⟩

/-- Where a run saves the settings that it used. -/
def settingsPath (s : Settings) : PathName :=
  s.output.join (.ofNames [".ace", "config.json"])

/-- Where the report of a failed run is saved. -/
def reportPath (s : Settings) : PathName :=
  s.output.join (.ofNames [".ace", "error-report.json"])

def toDatum (s : Settings) : Datum :=
  .map
    [ (.str "template_dir", .str s.templates.text)
    , (.str "output_dir", .str s.output.text)
    , (.str "overwrite", .bool s.overwrite)
    , (.str "render", s.render.toDatum)
    , (.str "assembly", s.assembly.toDatum) ]

/-- The fields that stand beside the two records. -/
def checkOwn (bundle : PathName) (d : Datum) : Checked (PathName × PathName × Bool) :=
  let templates := Checked.field "template_dir" Reading.path bundle d
  let output := Checked.field "output_dir" Reading.path usualOutput d
  let overwrite := Checked.field "overwrite" Reading.condition false d
  templates.both (output.both overwrite)

/-- Reads the settings from a record with two records inside. -/
def check (bundle : PathName) : Datum → Checked Settings
  | .map entries =>
    let d := Datum.map entries
    let render := Checked.record "render" RenderSettings.check {} d
    let assembly := Checked.record "assembly" AssemblySettings.check {} d
    ((checkOwn bundle d).both (render.both assembly)).map
      fun ((templates, output, overwrite), render, assembly) =>
        ⟨templates, output, overwrite, render, assembly⟩
  | _ => .error [⟨[], .recordType⟩]

def parse (bundle : PathName) (text : String) : Except ValidationError Settings :=
  match Json.parse? text with
  | some d => (check bundle d).titled title
  | none => .error ⟨title, [⟨[], .invalidJson⟩]⟩

/-- Settings made of two finished records and the fields beside them. -/
def assemble (bundle : PathName) (render : RenderSettings) (assembly : AssemblySettings)
    (d : Datum) : Except ValidationError Settings :=
  ((checkOwn bundle d).titled title).map fun (templates, output, overwrite) =>
    ⟨templates, output, overwrite, render, assembly⟩

def load (bundle : PathName) (t : FileTree) (cwd : Location) (p : PathName) :
    Except SettingsError Settings :=
  match TextFile.read t (p.namesFrom cwd) p.text with
  | .error e => .error (.text e)
  | .ok text => (parse bundle text).mapError .invalid

/-- Saves settings, and gives the path that they are saved under. -/
def save (s : Settings) (t : FileTree) (cwd : Location) (path : Option PathName) :
    FileTree × Except ConfigFile.SaveError PathName :=
  let target := path.getD s.settingsPath
  match ConfigFile.saveJson .record t cwd target s.toDatum with
  | (t, .ok ()) => (t, .ok target)
  | (t, .error e) => (t, .error e)

/-! ## Variables of the environment -/

/-- A variable that says something. -/
def valueOf? (assignments : List (String × String)) (name : String) : Option String :=
  (assignments.lookup name).filter (· != "")

/-- A word of a variable: blanks and the case of letters do not count. -/
def word (s : String) : String :=
  String.ofList (Text.lower (Text.trim s.toList))

/-- Words of a variable that stand for true; all others stand for false. -/
def affirmations : List String := ["1", "true", "yes", "on"]

/-- A record of the variables that say something. -/
def recordOf (fields : List (String × Option String)) : Datum :=
  .map (fields.filterMap fun (name, value?) => value?.map fun v => (.str name, .str v))

/-- Reads the settings from variables. -/
def ofVariables (bundle : PathName) (assignments : List (String × String)) :
    Except ValidationError Settings := do
  let given := valueOf? assignments
  let render ← RenderSettings.read (recordOf [("mode", (given "ACE_RENDER_MODE").map word)])
  let assembly ← AssemblySettings.read
    (recordOf [("max_workers", given "ACE_MAX_WORKERS"), ("timeout", given "ACE_TIMEOUT")])
  pure
    { templates := ((given "ACE_TEMPLATE_DIR").map .ofString).getD bundle
      output := ((given "ACE_OUTPUT_DIR").map .ofString).getD usualOutput
      overwrite := ((given "ACE_OVERWRITE").map fun v => affirmations.contains (word v)).getD false
      render := render
      assembly := assembly }

end Settings

/-- What a single run sets for itself. -/
structure Overrides where
  templates : Option String := none
  output : Option String := none
  overwrite : Bool := false
  lenient : Bool := false
  workers : Option Int := none
  limit : Option Double := none
  deriving DecidableEq, Repr

namespace Settings

/-- A field that is set, if what sets it is not empty. -/
def replaced (p : PathName) (text? : Option String) : PathName :=
  ((text?.filter (· != "")).map .ofString).getD p

/-- A number that is set and checked, or the old one. -/
def renewed (name : String) (check : α → Reading β) (old : Option β) : Option α → Checked (Option β)
  | none => .ok old
  | some x => ((check x).map some).mapError fun rule => [⟨[name], rule⟩]

/-- The settings with the overrides of a run. -/
def override (s : Settings) (o : Overrides) : Except ValidationError Settings := do
  let workers := renewed "max_workers" WorkerCount.check s.assembly.workers o.workers
  let limit := renewed "timeout" TimeLimit.check s.assembly.limit o.limit
  let (workers, limit) ← (workers.both limit).titled AssemblySettings.title
  pure
    { templates := replaced s.templates o.templates
      output := replaced s.output o.output
      overwrite := s.overwrite || o.overwrite
      render := { s.render with mode := if o.lenient then .lenient else s.render.mode }
      assembly := ⟨workers, limit⟩ }

end Settings

end Scaffold
