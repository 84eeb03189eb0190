import Scaffold.CommandLine.Command
import Scaffold.Proofs.Sessions

namespace Scaffold

/-!
# Consoles that refuse

A console may refuse a thing whose markup it cannot read. A command goes on
such a console as on a plain one as long as nothing is refused, and the
first thing that is refused is what it fails by.
-/

namespace Console

variable {console : Console}

/-- The first of some things that the console refuses. -/
def firstRefused? (console : Console) (told : List Shown) : Option Shown :=
  told.find? fun m => !console.shows m

theorem firstRefused?_append (told more : List Shown) :
    console.firstRefused? (told ++ more)
      = (console.firstRefused? told).or (console.firstRefused? more) :=
  List.find?_append

end Console

namespace Action

variable {α β : Type} {console : Console} {s : Session}

/-- A run on a console is the one on a plain console, which shows some things more than were shown
before, or it fails by the first of these things that the console refuses. -/
inductive Agrees (console : Console) (s : Session) (plain : Except Failure α × Session) :
    Except Failure α × Session → Prop
  | same {told : List Shown} (htold : plain.2.shown = s.shown ++ told)
      (hshows : console.firstRefused? told = none) : Agrees console s plain plain
  | refused {told : List Shown} {m : Shown} {s' : Session}
      (htold : plain.2.shown = s.shown ++ told) (hrefused : console.firstRefused? told = some m) :
      Agrees console s plain (.error (.unshown m), s')

theorem Agrees.exists_told {plain run : Except Failure α × Session}
    (h : Agrees console s plain run) : ∃ told, plain.2.shown = s.shown ++ told := by
  cases h with
  | same htold => exact ⟨_, htold⟩
  | refused htold => exact ⟨_, htold⟩

section Later

variable {s' : Session} {told : List Shown} {plain run : Except Failure α × Session}

theorem shown_append (htold : s'.shown = s.shown ++ told) {more : List Shown}
    (hmore : plain.2.shown = s'.shown ++ more) : plain.2.shown = s.shown ++ (told ++ more) := by
  rw [hmore, htold, List.append_assoc]

/-- A run that agrees from a later session on agrees from the earlier one on. -/
theorem Agrees.of_later (h : Agrees console s' plain run) (htold : s'.shown = s.shown ++ told)
    (hshows : console.firstRefused? told = none) : Agrees console s plain run := by
  have hlater (more : List Shown) :
      console.firstRefused? (told ++ more) = console.firstRefused? more := by
    rw [Console.firstRefused?_append, hshows, Option.none_or]
  cases h with
  | same hmore hmoreShows => exact .same (shown_append htold hmore) ((hlater _).trans hmoreShows)
  | refused hmore hrefused => exact .refused (shown_append htold hmore) ((hlater _).trans hrefused)

/-- What was refused before a later session stays what the run fails by. -/
theorem Agrees.of_refused {s'' : Session} {m : Shown} (htold : s'.shown = s.shown ++ told)
    (hrefused : console.firstRefused? told = some m)
    (hmore : ∃ more, plain.2.shown = s'.shown ++ more) :
    Agrees console s plain (.error (.unshown m), s'') := by
  obtain ⟨more, hmore⟩ := hmore
  refine .refused (shown_append htold hmore) ?_
  rw [Console.firstRefused?_append, hrefused, Option.some_or]

end Later

/-- On every console an action agrees with what it is on the plain one. -/
def Candid (x : Action α) : Prop :=
  ∀ console s, Agrees console s (x.runOn .plain s) (x.runOn console s)

theorem Candid.exists_told {x : Action α} (h : x.Candid) (s : Session) :
    ∃ told, (x.runOn .plain s).2.shown = s.shown ++ told :=
  (h .plain s).exists_told

theorem candid_of_silent {x : Action α}
    (hsame : ∀ console s, x.runOn console s = x.runOn .plain s)
    (hshown : ∀ s, (x.runOn .plain s).2.shown = s.shown) : x.Candid := by
  intro console s
  rw [hsame console s]
  exact .same (by rw [hshown, List.append_nil]) rfl

theorem candid_pure (a : α) : (pure a : Action α).Candid :=
  candid_of_silent (fun _ _ => rfl) fun _ => rfl

theorem candid_throw (f : Failure) : (throw f : Action α).Candid :=
  candid_of_silent (fun _ _ => rfl) fun _ => rfl

theorem candid_get : (get : Action Session).Candid :=
  candid_of_silent (fun _ _ => rfl) fun _ => rfl

theorem candid_ofExcept (r : Except Failure α) : (ofExcept r).Candid :=
  candid_of_silent (fun _ _ => rfl) fun _ => rfl

theorem candid_change {ε : Type} (failure : ε → Failure)
    (f : FileTree → Location → FileTree × Except ε α) : (change failure f).Candid :=
  candid_of_silent (fun _ _ => rfl) fun _ => rfl

theorem candid_tell (m : Shown) : (tell m).Candid := by
  intro console s
  have hplain : (tell m).runOn .plain s = (.ok (), s.shows [m]) := rfl
  rw [hplain, runOn_tell]
  split
  · next hshows => exact .same rfl (by simp [Console.firstRefused?, hshows])
  · next hrefused => exact .refused rfl (by simp [Console.firstRefused?, hrefused])

theorem Candid.bind {x : Action α} {f : α → Action β} (hx : x.Candid) (hf : ∀ a, (f a).Candid) :
    (x >>= f).Candid := by
  intro console s
  have hagrees := hx console s
  generalize hrun : x.runOn console s = run at hagrees
  rcases hplain : x.runOn .plain s with ⟨e | a, s'⟩
  · rw [hplain] at hagrees
    rw [runOn_bind_error hplain]
    cases hagrees with
    | same htold hshows =>
        rw [runOn_bind_error hrun]
        exact .same htold hshows
    | refused htold hrefused =>
        rw [runOn_bind_error hrun]
        exact .refused htold hrefused
  · rw [hplain] at hagrees
    rw [runOn_bind_ok hplain]
    cases hagrees with
    | same htold hshows =>
        rw [runOn_bind_ok hrun]
        exact (hf a console s').of_later htold hshows
    | refused htold hrefused =>
        rw [runOn_bind_error hrun]
        exact .of_refused htold hrefused ((hf a).exists_told s')

/-- What the console refused is to be thrown on by the handler. -/
theorem Candid.tryCatch {x : Action α} {handle : Failure → Action α} (hx : x.Candid)
    (hhandle : ∀ e, (handle e).Candid) (hthrow : ∀ m, handle (.unshown m) = throw (.unshown m)) :
    (tryCatch x handle).Candid := by
  intro console s
  have hagrees := hx console s
  generalize hrun : x.runOn console s = run at hagrees
  rcases hplain : x.runOn .plain s with ⟨e | a, s'⟩
  · rw [hplain] at hagrees
    rw [runOn_tryCatch_error hplain]
    cases hagrees with
    | same htold hshows =>
        rw [runOn_tryCatch_error hrun]
        exact (hhandle e console s').of_later htold hshows
    | refused htold hrefused =>
        rw [runOn_tryCatch_error hrun, hthrow, runOn_throw]
        exact .of_refused htold hrefused ((hhandle e).exists_told s')
  · rw [hplain] at hagrees
    rw [runOn_tryCatch_ok hplain]
    cases hagrees with
    | same htold hshows =>
        rw [runOn_tryCatch_ok hrun]
        exact .same htold hshows
    | refused htold hrefused =>
        rw [runOn_tryCatch_error hrun, hthrow, runOn_throw]
        exact .refused htold hrefused

theorem candid_forM {γ : Type} {f : γ → Action PUnit} (hf : ∀ c, (f c).Candid) (cs : List γ) :
    (cs.forM f).Candid := by
  induction cs with
  | nil => exact candid_pure _
  | cons c cs ih => exact (hf c).bind fun _ => ih

end Action

/-! ## Commands -/

open Scaffold.Action

namespace Workshop

variable (w : Workshop)

theorem candid_write (p : Product) : (w.write p).Candid :=
  (candid_change _ _).bind fun _ => (candid_change _ _).bind fun _ => candid_pure _

theorem candid_saveReport (r : Report) (path? : Option PathName) : (w.saveReport r path?).Candid :=
  (candid_change _ _).bind fun _ => candid_pure _

theorem candid_run (r : Request) (dryRun : Bool) (elapsed : Seconds) :
    (w.run r dryRun elapsed).Candid := by
  refine candid_get.bind fun session => (candid_ofExcept _).bind fun pattern => ?_
  refine (candid_ofExcept _).bind fun output => (candid_tell _).bind fun _ => ?_
  refine (candid_tell _).bind fun _ => (candid_ofExcept _).bind fun product => ?_
  refine (candid_forM (fun _ => candid_tell _) _).bind fun _ => ?_
  cases dryRun with
  | true =>
      exact (candid_pure _).bind fun _ =>
        (candid_tell _).bind fun _ => (candid_tell _).bind fun _ => candid_pure _
  | false =>
      refine (candid_tell _).bind fun _ => (w.candid_write product).bind fun _ => ?_
      exact (candid_tell _).bind fun _ => (candid_tell _).bind fun _ => candid_pure _

end Workshop

namespace Command

variable (w : Workshop) (wording : Wording) (a : Arguments)

theorem explain_unshown (m : Shown) : explain w wording a (.unshown m) = throw (.unshown m) := rfl

theorem candid_explain_report (r : Report) :
    (explain w wording a (.run (.assembly (.report r)))).Candid := by
  refine (candid_tell _).bind fun _ => ?_
  cases a.report? with
  | none => exact (candid_tell _).bind fun _ => candid_pure _
  | some name =>
      refine (w.candid_saveReport _ _).bind fun _ => (candid_tell _).bind fun _ => ?_
      exact (candid_tell _).bind fun _ => candid_pure _

theorem candid_explain (f : Failure) : (explain w wording a f).Candid := by
  unfold explain
  split
  · exact candid_explain_report w wording a _
  · exact (candid_tell _).bind fun _ => candid_pure _
  · exact (candid_tell _).bind fun _ => candid_pure _
  · exact (candid_tell _).bind fun _ => candid_pure _
  · split
    · exact (candid_tell _).bind fun _ => candid_pure _
    · exact candid_throw _

theorem candid_runWorkshop (config : PatternConfig) (elapsed : Seconds) :
    (runWorkshop w wording a config elapsed).Candid := by
  refine Candid.tryCatch ?_ (candid_explain w wording a) (explain_unshown w wording a)
  exact (w.candid_run _ _ _).bind fun _ => (candid_tell _).bind fun _ => candid_pure _

theorem candid_perform (env : Environment) : (perform env a).Candid := by
  refine candid_get.bind fun session => ?_
  split
  · exact (candid_ofExcept _).bind fun _ => (candid_tell _).bind fun _ => candid_pure _
  · exact candid_runWorkshop _ _ _ _ _

theorem candid_run (env : Environment) (args : List String) : (run env args).Candid := by
  unfold run
  split
  · exact candid_perform _ env
  · exact candid_pure _
  · exact candid_pure _

/-- All that a command tells where nothing is refused. -/
def told (env : Environment) (args : List String) (t : FileTree) (cwd : Location) : List Shown :=
  ((run env args).runOn .plain ⟨cwd, t, []⟩).2.shown

variable {console : Console} {env : Environment} {args : List String} {t : FileTree}
  {cwd : Location}

end Command

end Scaffold
