import Scaffold.Workshop

namespace Scaffold

/-!
# Actions in sessions

An action gives a value or a failure and leaves a session. Steps that only
show something leave the files as they are, so a workshop writes into the
tree that its templates come from. A console that refuses something makes
an action fail; before that, it goes as on a plain console.
-/

namespace Session

/-- The session with more shown in it. -/
def shows (s : Session) (more : List Shown) : Session :=
  { s with shown := s.shown ++ more }

@[simp] theorem tree_shows (s : Session) (more : List Shown) : (s.shows more).tree = s.tree := rfl

@[simp] theorem workingDirectory_shows (s : Session) (more : List Shown) :
    (s.shows more).workingDirectory = s.workingDirectory := rfl

end Session

namespace Action

variable {α β : Type} {console : Console}

theorem runOn_throw (f : Failure) (s : Session) :
    (throw f : Action α).runOn console s = (.error f, s) := rfl

theorem runOn_change (console : Console) {ε : Type} (failure : ε → Failure)
    (f : FileTree → Location → FileTree × Except ε α) (s : Session) :
    (change failure f).runOn console s =
      ((f s.tree s.workingDirectory).2.mapError failure,
        { s with tree := (f s.tree s.workingDirectory).1 }) := rfl

theorem runOn_tell (m : Shown) (s : Session) :
    (tell m).runOn console s =
      if console.shows m then (.ok (), s.shows [m]) else (.error (.unshown m), s) := by
  have hrun : (tell m).runOn console s = (if console.shows m then
      (modify fun session => { session with shown := session.shown ++ [m] } : Action Unit)
    else throw (.unshown m)).runOn console s := rfl
  rw [hrun]
  split <;> rfl

theorem runOn_bind_ok {x : Action α} {s s' : Session} {a : α}
    (h : x.runOn console s = (.ok a, s')) (f : α → Action β) :
    (x >>= f).runOn console s = (f a).runOn console s' := by
  change (ExceptT.bindCont (fun a => (f a).run console) (x.runOn console s).1).run
    (x.runOn console s).2 = _
  rw [h]
  rfl

theorem runOn_bind_error {x : Action α} {s s' : Session} {e : Failure}
    (h : x.runOn console s = (.error e, s')) (f : α → Action β) :
    (x >>= f).runOn console s = (.error e, s') := by
  change (ExceptT.bindCont (fun a => (f a).run console) (x.runOn console s).1).run
    (x.runOn console s).2 = _
  rw [h]
  rfl

theorem runOn_tryCatch_ok {x : Action α} {s s' : Session} {a : α}
    (h : x.runOn console s = (.ok a, s')) (handle : Failure → Action α) :
    (tryCatch x handle).runOn console s = (.ok a, s') := by
  have hrun : StateT.run (x.run console) s = (.ok a, s') := h
  change StateT.run (ExceptT.tryCatch (x.run console) fun e => (handle e).run console) s = _
  simp only [ExceptT.tryCatch, ExceptT.mk, StateT.run_bind, hrun]
  rfl

theorem runOn_tryCatch_error {x : Action α} {s s' : Session} {e : Failure}
    (h : x.runOn console s = (.error e, s')) (handle : Failure → Action α) :
    (tryCatch x handle).runOn console s = (handle e).runOn console s' := by
  have hrun : StateT.run (x.run console) s = (.error e, s') := h
  change StateT.run (ExceptT.tryCatch (x.run console) fun e => (handle e).run console) s = _
  simp only [ExceptT.tryCatch, ExceptT.mk, StateT.run_bind, hrun]
  rfl

/-! ## Showing -/

end Action

/-! ## Runs of a workshop -/

namespace Workshop

variable (w : Workshop) (config : PatternConfig) (dryRun : Bool) (s : Session)

/-- Where the workshop writes, seen from a directory. -/
def writer (cwd : Location) : Writer :=
  ⟨w.settings.output.namesFrom cwd, w.settings.overwrite⟩

/-- All that writing a product can come to. -/
inductive Writes (p : Product) : Except Failure Product × Session → Prop
  | notWritten {e : WriteError} {s' : Session}
      (hwrite : ((w.writer s.workingDirectory).write s.tree p.files).2 = .error e) :
      Writes p (.error (.write e), s')
  | notSaved {targets : List Location} {e : ConfigFile.SaveError} {s' : Session}
      (hwrite : ((w.writer s.workingDirectory).write s.tree p.files).2 = .ok targets)
      (hsave : (w.settings.save ((w.writer s.workingDirectory).write s.tree p.files).1
        s.workingDirectory none).2 = .error e) :
      Writes p (.error (.save e), s')
  | written {targets : List Location} {path : PathName} {s' : Session}
      (hwrite : ((w.writer s.workingDirectory).write s.tree p.files).2 = .ok targets)
      (hsave : (w.settings.save ((w.writer s.workingDirectory).write s.tree p.files).1
        s.workingDirectory none).2 = .ok path) :
      Writes p (.ok { p with written := targets }, s')

theorem writes_write (p : Product) : w.Writes s p ((w.write p).runOn .plain s) := by
  have hstep := Action.runOn_change .plain Failure.write
    (fun t cwd => (w.writer cwd).write t p.files) s
  cases hwrite : ((w.writer s.workingDirectory).write s.tree p.files).2 with
  | error e =>
      rw [hwrite] at hstep
      have hrun : (w.write p).runOn .plain s = _ := Action.runOn_bind_error hstep _
      rw [hrun]
      exact .notWritten hwrite
  | ok targets =>
      rw [hwrite] at hstep
      have hrun : (w.write p).runOn .plain s = _ := Action.runOn_bind_ok hstep _
      have hnext := Action.runOn_change .plain Failure.save (fun t cwd => w.settings.save t cwd none)
        { s with tree := ((w.writer s.workingDirectory).write s.tree p.files).1 }
      rw [hrun]
      cases hsave : (w.settings.save ((w.writer s.workingDirectory).write s.tree p.files).1
          s.workingDirectory none).2 with
      | error e =>
          rw [hsave] at hnext
          rw [Action.runOn_bind_error hnext]
          exact .notSaved hwrite hsave
      | ok path =>
          rw [hsave] at hnext
          rw [Action.runOn_bind_ok hnext]
          exact .written hwrite hsave

end Workshop

end Scaffold
