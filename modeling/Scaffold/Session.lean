import Scaffold.Assembly
import Scaffold.Console
import Scaffold.Library
import Scaffold.Output.Writer
import Scaffold.Settings

namespace Scaffold

/-!
# Sessions

A session is what actions change: the files, and what has been shown on the
console so far. An action that fails leaves the session as it is then; it
fails also where the console refuses what it is to show.
-/

/-- Why nothing comes of a request. -/
inductive Failure
  | request (e : ValidationError)
  | library (f : LibraryFlaw)
  | unreadable (e : TextError)
  | run (f : RunFailure)
  | write (e : WriteError)
  | save (e : ConfigFile.SaveError)
  | fault (f : Fault)
  /-- The console cannot read the markup of what it is to show. -/
  | unshown (s : Shown)
  deriving DecidableEq, Repr

def Failure.message : Failure → String
  | .request e => s!"CONTEXT: Invalid pattern config: {e.headline}"
  | .library f => s!"TEMPLATES: {f.message}"
  | .unreadable (.file e) | .save (.file e) => e.message
  | .unreadable .notText => "Not UTF-8 text"
  | .unreadable .zeroByte => Fault.zeroByte.message
  | .unreadable .impossible => "There is no such character, number or date"
  | .unreadable .unsupported => "Data cannot hold what the text says"
  | .run (.assembly (.report r)) => r.message
  | .run (.assembly (.fault f)) | .save (.fault f) | .fault f => f.message
  | .run (.interrupted i) => i.message
  | .run .noWorkers => RunFailure.noWorkersMessage
  | .write e => e.message
  | .unshown _ => "Markup that cannot be read"

/-- Where a workshop works, the files there, and what it has shown so far. -/
structure Session where
  workingDirectory : Location
  tree : FileTree
  shown : List Shown := []

/-- An action in a session, shown on a console. What it changed stays changed when it fails. -/
abbrev Action (α : Type) := ReaderT Console (ExceptT Failure (StateM Session)) α

namespace Action

/-- Does the action on a console, and gives the session as it leaves it. -/
def runOn (x : Action α) (console : Console) (s : Session) : Except Failure α × Session :=
  (x.run console).run.run s

def ofExcept (r : Except Failure α) : Action α :=
  fun _ => ExceptT.mk (pure r)

def tell (s : Shown) : Action Unit := do
  if (← read).shows s then
    modify fun session => { session with shown := session.shown ++ [s] }
  else throw (.unshown s)

/-- Does something to the files. -/
def change (failure : ε → Failure) (f : FileTree → Location → FileTree × Except ε α) :
    Action α := do
  let session ← get
  let (tree, result) := f session.tree session.workingDirectory
  set { session with tree := tree }
  ofExcept (result.mapError failure)

end Action

end Scaffold
