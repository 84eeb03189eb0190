import Scaffold.CommandLine.Arguments
import Scaffold.Workshop

namespace Scaffold

/-!
# The command

The command reads a request from a file and the settings from a saved file
or the environment, runs the workshop, and says by its exit code how that
went. Failures that it has no code for are left to whoever started it.
-/

/-- How a command ends. -/
inductive ExitCode
  | success
  /-- A template failed or a file was not to be written. -/
  | generationFailed
  | invalidInput
  | cancelled
  deriving DecidableEq, Repr

def ExitCode.number : ExitCode → Nat
  | .success => 0
  | .generationFailed => 1
  | .invalidInput => 2
  | .cancelled => 3

namespace Command

/-- Why a command ends before its run starts. -/
inductive Refusal
  | noConfig (p : PathName)
  | invalidConfig (p : PathName) (e : ValidationError)
  | unparsable (p : PathName)
  | invalidSettings (e : ValidationError)
  | noSettings
  /-- A failure without a message of its own. -/
  | other (f : Failure)
  deriving DecidableEq, Repr

def Refusal.line? : Refusal → Except Failure String
  | .noConfig p => .ok s!"Config file not found: {p.text}"
  | .invalidConfig p e => .ok s!"Invalid pattern config {p.text}:\n{e.headline}"
  | .unparsable p => .ok s!"Cannot parse {p.text}"
  | .invalidSettings e => .ok s!"Invalid engine settings:\n{e.headline}"
  | .noSettings => .ok "Cannot read settings"
  | .other f => .error f

end Command

/-- What the readers of files have to say about what is wrong with one, behind what the command
says. -/
structure Wording where
  refusal : Command.Refusal → String := fun _ => ""
  flaw : LibraryFlaw → String := fun _ => ""

/-- Where a command runs. -/
structure Environment where
  assignments : List (String × String)
  /-- The directory of the bundled templates. -/
  bundle : PathName
  /-- What stops every concurrent run, if something does. -/
  stop? : Option Interruption := none
  /-- How long the run takes. -/
  elapsed : Seconds := .whole 0
  wording : Wording := {}

namespace Command

def readConfig (t : FileTree) (cwd : Location) (p : PathName) : Except Refusal PatternConfig :=
  match t.contains (p.namesFrom cwd) with
  | .error trouble => .error (.other (.unreadable (.file ⟨trouble, p.text⟩)))
  | .ok false => .error (.noConfig p)
  | .ok true =>
    match ConfigFile.load t cwd (ConfigFile.formatOf p) p with
    | .error (.text (.file e)) => .error (.other (.unreadable (.file e)))
    | .error (.text .unsupported) => .error (.other (.unreadable .unsupported))
    | .error _ => .error (.unparsable p)
    | .ok d => (PatternConfig.ofDatum d).mapError (.invalidConfig p)

/-- The saved settings that the arguments name, or those of the environment. -/
def readSettings (env : Environment) (t : FileTree) (cwd : Location) (a : Arguments) :
    Except Refusal Settings :=
  match a.settings?.filter (· != "") with
  | none => (Settings.ofVariables env.bundle env.assignments).mapError .invalidSettings
  | some name =>
    (Settings.load env.bundle t cwd (.ofString name)).mapError fun
      | .invalid e => .invalidSettings e
      | .text (.file _) => .noSettings
      | .text e => .other (.unreadable e)

/-- All that a run needs. -/
def prepare (env : Environment) (t : FileTree) (cwd : Location) (a : Arguments) :
    Except Refusal (PatternConfig × Settings) := do
  let config ← readConfig t cwd (.ofString a.config)
  let settings ← readSettings env t cwd a
  let settings ← (settings.override a.overrides).mapError .invalidSettings
  pure (config, settings)

/-- The message of a failure to write that the command has a code for. -/
def refusedWrite? : Failure → Option String
  | .write (.unsafePath e) => some e.message
  | .write (.fileThere target) => some (WriteError.fileThere target).message
  | .write (.file e) | .save (.file e) =>
    if e.trouble = .alreadyThere then some e.message else none
  | _ => none

/-- Shows a failed run and saves the report of it, if there is one and it is asked for. -/
def explain (w : Workshop) (wording : Wording) (a : Arguments) (f : Failure) : Action ExitCode :=
  match f with
  | .run (.assembly (.report r)) => do
    Action.tell (.report r)
    if let some name := a.report? then
      let path ← w.saveReport r (if name = "" then none else some (.ofString name))
      Action.tell (.line s!"  Error report written to [bold]{path.text}[/bold]")
    Action.tell (.error s!"{r.message}. No files were written.")
    pure .generationFailed
  | .run (.interrupted i) => do
    Action.tell (.error s!"Cancelled: {i.message}")
    pure .cancelled
  | .request _ => do
    Action.tell (.error f.message)
    pure .invalidInput
  | .library flaw => do
    Action.tell (.error (f.message ++ wording.flaw flaw))
    pure .invalidInput
  | f =>
    match refusedWrite? f with
    | some message => do
      Action.tell (.error s!"Refusing to write output: {message}")
      pure .generationFailed
    | none => throw f

/-- Runs the workshop and shows how it went. -/
def runWorkshop (w : Workshop) (wording : Wording) (a : Arguments) (config : PatternConfig)
    (elapsed : Seconds) : Action ExitCode :=
  tryCatch
    (do
      let _ ← w.run (.checked config) a.dryRun elapsed
      Action.tell (.success "Generation completed successfully!")
      pure .success)
    (explain w wording a)

def perform (env : Environment) (a : Arguments) : Action ExitCode := do
  let session ← get
  match prepare env session.tree session.workingDirectory a with
  | .error refusal => do
    let line ← Action.ofExcept refusal.line?
    Action.tell (.line s!"[bold red]Error:[/bold red] {line}{env.wording.refusal refusal}")
    pure .invalidInput
  | .ok (config, settings) =>
    let w := { Workshop.standard settings with stop? := env.stop? }
    runWorkshop w env.wording a config env.elapsed

/-- Runs the command. Arguments that make no sense show nothing here. -/
def run (env : Environment) (args : List String) : Action ExitCode :=
  match Arguments.parse args with
  | .ok a => perform env a
  | .error .help => pure .success
  | .error .misuse => pure .invalidInput

end Command

end Scaffold
