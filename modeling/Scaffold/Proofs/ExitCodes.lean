import Scaffold.Proofs.Consoles
import Scaffold.Proofs.JsonReading
import Scaffold.Proofs.LegibleLibraries
import Scaffold.Proofs.StandardHelpers

namespace Scaffold

/-!
# Exit codes

What a command reads may be missing, malformed or of the wrong kind. For
each phase of a run there is a list of what can come of it, and a code for
nearly all of that. What has no code is named here: a directory in place of
a file, bytes that are no text, names that no system has, and links that
lead back to themselves.
-/

/-! ## Making the files -/

namespace Workshop

variable {w : Workshop} {t : FileTree} {cwd : Location}

end Workshop

/-! ## Writing the files -/

namespace Writer

variable {w : Writer} {t : FileTree} {s : FileSet}

end Writer

/-! ## Saving records -/

namespace PathName

end PathName

/-- A target that is not to be written. -/
inductive WriteError.Refuses : WriteError → Prop
  | unsafePath (e : UnsafePath) : Refuses (.unsafePath e)
  | fileThere (target : Location) : Refuses (.fileThere target)

/-- What the system finds wrong while the files of a product or the settings beside them are written,
and the failure that comes of it. -/
inductive Workshop.Faults (w : Workshop) (t : FileTree) (cwd : Location) (p : Product) :
    FileError → Failure → Prop
  | write {e : FileError} (hwrite : ((w.writer cwd).write t p.files).2 = .error (.file e)) :
      Faults w t cwd p e (.write (.file e))
  | save {targets : List Location} {e : FileError}
      (hwrite : ((w.writer cwd).write t p.files).2 = .ok targets)
      (hsave : (w.settings.save ((w.writer cwd).write t p.files).1 cwd none).2
        = .error (.file e)) :
      Faults w t cwd p e (.save (.file e))

/-- Why a run ends with a code. -/
inductive Workshop.Ends (w : Workshop) (t : FileTree) (cwd : Location) (config : PatternConfig)
    (dryRun : Bool) : ExitCode → Prop
  | flawed {f : LibraryFlaw} (hload : w.library.load t cwd = .error (.flaw f)) :
      Ends w t cwd config dryRun .invalidInput
  | failed {r : Report} (hmake : w.generateConcurrently t cwd (.checked config) none
        = .error (.run (.assembly (.report r)))) :
      Ends w t cwd config dryRun .generationFailed
  | interrupted {i : Interruption} (hmake : w.generateConcurrently t cwd (.checked config) none
        = .error (.run (.interrupted i))) :
      Ends w t cwd config dryRun .cancelled
  | refused {p : Product} {e : WriteError} (hwet : dryRun = false)
      (hmake : w.generateConcurrently t cwd (.checked config) none = .ok p)
      (hplan : (w.writer cwd).plan t p.files = .error e) (hrefuses : e.Refuses) :
      Ends w t cwd config dryRun .generationFailed
  | obstructed {p : Product} {e : FileError} {f : Failure} (hwet : dryRun = false)
      (hmake : w.generateConcurrently t cwd (.checked config) none = .ok p)
      (hfaults : w.Faults t cwd p e f) (hthere : e.trouble = .alreadyThere) :
      Ends w t cwd config dryRun .generationFailed
  | dry {p : Product} (hdry : dryRun = true)
      (hmake : w.generateConcurrently t cwd (.checked config) none = .ok p) :
      Ends w t cwd config dryRun .success
  | written {p : Product} {targets : List Location} {path : PathName} (hwet : dryRun = false)
      (hmake : w.generateConcurrently t cwd (.checked config) none = .ok p)
      (hwrite : ((w.writer cwd).write t p.files).2 = .ok targets)
      (hsave : (w.settings.save ((w.writer cwd).write t p.files).1 cwd none).2 = .ok path) :
      Ends w t cwd config dryRun .success

/-- Where the report of a failed run is saved, given the name that was asked for. -/
def Workshop.reportTarget (w : Workshop) (name : String) : PathName :=
  (if name = "" then none else some (.ofString name)).getD w.settings.reportPath

/-- The failures of a run that have no code: the system faults while something is written. -/
inductive Workshop.Breaks (w : Workshop) (t : FileTree) (cwd : Location) (config : PatternConfig)
    (a : Arguments) : Failure → Prop
  | writing {p : Product} {e : FileError} {f : Failure} (hwet : a.dryRun = false)
      (hmake : w.generateConcurrently t cwd (.checked config) none = .ok p)
      (hfaults : w.Faults t cwd p e f) (hother : e.trouble ≠ .alreadyThere) :
      Breaks w t cwd config a f
  | reporting {r : Report} {name : String} {e : FileError}
      (hmake : w.generateConcurrently t cwd (.checked config) none
        = .error (.run (.assembly (.report r))))
      (hreport : a.report? = some name)
      (hsave : (ConfigFile.saveJson .pretty t cwd (w.reportTarget name) r.toDatum).2
        = .error (.file e)) :
      Breaks w t cwd config a (.save (.file e))

namespace Command

/-- The workshop that a command runs. -/
def workshop (env : Environment) (settings : Settings) : Workshop :=
  { Workshop.standard settings with stop? := env.stop? }

/-- Why a command ends with a code: what it needs is refused, or its run ends so. -/
inductive Ends (env : Environment) (t : FileTree) (cwd : Location) (a : Arguments) :
    ExitCode → Prop
  | refused {r : Refusal} {line : String} (hprepare : prepare env t cwd a = .error r)
      (hline : r.line? = .ok line) : Ends env t cwd a .invalidInput
  | ran {config : PatternConfig} {settings : Settings} {code : ExitCode}
      (hprepare : prepare env t cwd a = .ok (config, settings))
      (hends : (workshop env settings).Ends t cwd config a.dryRun code) : Ends env t cwd a code

/-- The failures of a command that have no code. -/
inductive Breaks (env : Environment) (t : FileTree) (cwd : Location) (a : Arguments) :
    Failure → Prop
  | ran {config : PatternConfig} {settings : Settings} {f : Failure}
      (hprepare : prepare env t cwd a = .ok (config, settings))
      (hbreaks : (workshop env settings).Breaks t cwd config a f) : Breaks env t cwd a f

variable {env : Environment} {t : FileTree} {cwd : Location} {a : Arguments}

variable {w : Workshop} {wording : Wording} {config : PatternConfig}

/-- There is a code for how the command ends, or it breaks with a failure. -/
inductive Accounted (ends : ExitCode → Prop) (breaks : Failure → Prop) :
    Except Failure ExitCode → Prop
  | code {code : ExitCode} (h : ends code) : Accounted ends breaks (.ok code)
  | failure {f : Failure} (h : breaks f) : Accounted ends breaks (.error f)

theorem Accounted.imp {ends ends' : ExitCode → Prop} {breaks breaks' : Failure → Prop}
    {r : Except Failure ExitCode} (h : Accounted ends breaks r)
    (hends : ∀ code, ends code → ends' code) (hbreaks : ∀ f, breaks f → breaks' f) :
    Accounted ends' breaks' r := by
  cases h with
  | code h => exact .code (hends _ h)
  | failure h => exact .failure (hbreaks _ h)

variable {s : Session}

end Command

end Scaffold
