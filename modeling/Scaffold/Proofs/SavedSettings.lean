import Scaffold.CommandLine.Command
import Scaffold.Proofs.PathSyntax
import Scaffold.Proofs.SavedFiles

namespace Scaffold

/-!
# Runs with saved settings

Settings that validation lets through are saved as text that reads back as
them, but for a time limit that is not finite: it is saved as none. A run with
the saved settings has them wherever it sets nothing for itself.
-/

/-! ## Names of paths -/

namespace PathName

variable {p : PathName}

/-- The names of a path that some text spells. -/
def Normal (p : PathName) : Prop :=
  ∀ part ∈ p.parts, part ≠ "" ∧ part ≠ "." ∧ '/' ∉ part.toList

theorem normal_ofString (s : String) : (ofString s).Normal := by
  intro part hpart
  obtain ⟨hmem, hkeep⟩ := List.mem_filter.mp hpart
  obtain ⟨piece, hpiece, rfl⟩ := List.mem_map.mp hmem
  simp only [Bool.and_eq_true, bne_iff_ne] at hkeep
  refine ⟨hkeep.1, hkeep.2, ?_⟩
  rw [String.toList_ofList]
  exact Text.not_mem_of_mem_splitOn hpiece

theorem Normal.filter_eq (h : p.Normal) :
    p.parts.filter (fun part => part != "" && part != ".") = p.parts := by
  refine List.filter_eq_self.mpr fun part hpart => ?_
  obtain ⟨hempty, hdot, -⟩ := h part hpart
  simp [hempty, hdot]

/-- Slashes in front of names are not among them. -/
theorem partsOf_replicate_append (k : Nat) (s : String) :
    partsOf (String.ofList (List.replicate k '/' ++ s.toList)) = partsOf s := by
  rw [partsOf, String.toList_ofList]
  induction k with
  | zero => rfl
  | succ k ih =>
      rw [List.replicate_succ, List.cons_append,
        show '/' :: (List.replicate k '/' ++ s.toList)
          = [] ++ '/' :: (List.replicate k '/' ++ s.toList) from rfl,
        Text.splitOn_append_sep List.not_mem_nil, List.map_cons,
        List.filter_cons_of_neg (by decide)]
      exact ih

theorem Normal.partsOf_intercalate (h : p.Normal) :
    partsOf ("/".intercalate p.parts) = p.parts := by
  by_cases hnone : p.parts = []
  · rw [hnone]
    decide
  · have hchars : ("/".intercalate p.parts).toList
        = Text.joinWith ['/'] (p.parts.map String.toList) := by
      rw [String.toList_intercalate, Text.joinWith_eq_intercalate]
      rfl
    have hpieces : ∀ piece ∈ p.parts.map String.toList, '/' ∉ piece :=
      List.forall_mem_map.mpr fun part hpart => (h part hpart).2.2
    rw [partsOf, hchars, Text.splitOn_joinWith (by simpa using hnone) hpieces, List.map_map]
    simpa [Function.comp_def] using h.filter_eq

theorem Normal.head?_intercalate (h : p.Normal) :
    ∀ c ∈ ("/".intercalate p.parts).toList.head?, c ≠ '/' := by
  rw [String.toList_intercalate]
  cases hparts : p.parts with
  | nil => exact nofun
  | cons part parts =>
      obtain ⟨hne, -, hslash⟩ := h part (hparts ▸ List.mem_cons_self)
      obtain ⟨c, cs, hcs⟩ := List.exists_cons_of_ne_nil (mt String.toList_eq_nil_iff.mp hne)
      obtain ⟨rest, hrest⟩ := Json.exists_intercalate_cons "/".toList c cs (parts.map String.toList)
      rw [List.map_cons, hcs, hrest]
      rintro _ ⟨⟩ rfl
      exact hslash (hcs ▸ List.mem_cons_self)

/-- A text of these slashes and normal names has the anchor. -/
theorem ofChars_slashes (anchor : Anchor) {s : List Char} (h : ∀ c ∈ s.head?, c ≠ '/') :
    Anchor.ofChars (anchor.text.toList ++ s) = anchor := by
  cases s with
  | nil => cases anchor <;> rfl
  | cons c s =>
      have hc : c ≠ '/' := h c rfl
      cases anchor <;> simp [Anchor.text, Anchor.ofChars, hc]

/-- Paths are read as they are written. -/
theorem Normal.ofString_text (h : p.Normal) : ofString p.text = p := by
  obtain ⟨anchor, parts⟩ := p
  unfold text
  split
  · next hhere =>
      simp only [Bool.and_eq_true, decide_eq_true_eq, List.isEmpty_iff] at hhere
      obtain ⟨rfl, rfl⟩ := hhere
      decide
  · have hslashes : ∃ k, anchor.text.toList = List.replicate k '/' := by
      cases anchor
      · exact ⟨0, rfl⟩
      · exact ⟨1, rfl⟩
      · exact ⟨2, rfl⟩
    obtain ⟨k, hk⟩ := hslashes
    have htext : anchor.text ++ "/".intercalate parts
        = String.ofList (List.replicate k '/' ++ ("/".intercalate parts).toList) := by
      rw [← hk, String.ofList_append, String.ofList_toList, String.ofList_toList]
    rw [ofString, String.toList_append, ofChars_slashes anchor h.head?_intercalate, htext,
      partsOf_replicate_append, h.partsOf_intercalate]

end PathName

/-! ## What validation lets through -/

namespace Double

def isFinite : Double → Bool
  | .finite .. => true
  | _ => false

end Double

theorem Json.Legible.of_isFinite {x : Double} (hfinite : x.isFinite) (h : x.IsBinary64) :
    Json.Legible (.float x) := by
  cases x with
  | finite => exact .float h
  | _ => cases hfinite

theorem TimeLimit.read_float (l : TimeLimit) : read (.float l.seconds) = .ok l := by
  change check l.seconds = .ok l
  rw [check, ofDouble?, dif_pos l.above_zero]
  rfl

theorem TimeLimit.exists_check {x : Double} (h : x.le .zero = false) :
    ∃ l, check x = .ok l ∧ l.seconds = x := by
  refine ⟨⟨x, h⟩, ?_, rfl⟩
  rw [check, ofDouble?, dif_pos h]
  rfl

theorem TimeLimit.check_eq_ok {x : Double} {l : TimeLimit} (h : check x = .ok l) :
    l.seconds = x := by
  unfold check ofDouble? at h
  split at h
  · cases h
    rfl
  · cases h

theorem WorkerCount.read_int (w : WorkerCount) : read (.int w.count) = .ok w := by
  change check w.count = .ok w
  rw [check, ofInt?, Int.toNat_natCast, dif_pos w.count_pos]
  rfl

theorem WorkerCount.exists_check {n : Int} (h : 0 < n) :
    ∃ w, check n = .ok w ∧ (w.count : Int) = n := by
  have hpos : 0 < n.toNat := by omega
  refine ⟨⟨n.toNat, hpos⟩, ?_, Int.toNat_of_nonneg h.le⟩
  rw [check, ofInt?, dif_pos hpos]
  rfl

namespace Number

theorem isBinary64_ofWord? {s : List Char} {x : Double} (h : ofWord? s = some x) :
    x.IsBinary64 := by
  unfold ofWord? at h
  dsimp only at h
  split at h
  · cases h
    trivial
  · split at h
    · cases h
      trivial
    · cases h

theorem isBinary64_readDouble? {s : List Char} {x : Double} (h : readDouble? s = some x) :
    x.IsBinary64 := by
  unfold readDouble? at h
  split at h
  · cases h
    exact Double.isBinary64_ofDecimal _ _ _
  · exact isBinary64_ofWord? h

end Number

namespace Reading

/-- A double that is read is one of binary64, if the datum is not one of another kind. -/
theorem isBinary64_double {d : Datum} {x : Double} (h : double d = .ok x)
    (hfloat : ∀ y, d = .float y ∨ d = .enum (.float y) → y.IsBinary64) : x.IsBinary64 := by
  unfold double at h
  split at h
  · cases h
    exact hfloat x (.inl rfl)
  · cases h
    exact hfloat x (.inr rfl)
  · cases h
    exact Double.isBinary64_ofFraction _ _ Nat.one_pos
  · cases h
    exact Double.isBinary64_ofFraction _ _ Nat.one_pos
  · cases h
    exact Double.isBinary64_ofFraction _ _ Nat.one_pos
  · next s =>
      unfold doubleOfText? at h
      split at h
      · next y hy =>
          cases h
          exact Number.isBinary64_readDouble? hy
      · cases hdrop : (dropSingleUnderscores? s.toList).bind Number.readDouble? with
        | none =>
            rw [hdrop] at h
            cases h
        | some y =>
            rw [hdrop] at h
            cases h
            obtain ⟨digits, -, hread⟩ := Option.bind_eq_some_iff.mp hdrop
            exact Number.isBinary64_readDouble? hread
  · cases h

/-- What is written of a value that may be missing is read as that. -/
theorem optional_getD {α : Type} {read : Datum → Reading α} {write : α → Datum}
    (h : ∀ x, read (write x) = .ok x) (hnull : ∀ x, write x ≠ .null) (x? : Option α) :
    optional read ((x?.map write).getD .null) = .ok x? := by
  cases x? with
  | none => rfl
  | some x =>
      rw [Option.map_some, Option.getD_some]
      unfold optional
      split
      · next heq => exact absurd heq (hnull x)
      · rw [h]
        rfl

end Reading

namespace Checked

variable {α β : Type} {name : String} {d item : Datum} {a : α} {b : β}

theorem field_of_get? {read : Datum → Reading α} (hget : d.get? name = some item)
    (hread : read item = .ok a) (default : α) : field name read default d = .ok a := by
  rw [field, hget]
  dsimp only
  rw [hread]
  rfl

theorem record_of_get? {read : Datum → Checked α} {entries : List (Datum × Datum)}
    (hget : d.get? name = some (.map entries)) (hread : read (.map entries) = .ok a) (default : α) :
    record name read default d = .ok a := by
  rw [record, hget]
  dsimp only
  rw [hread]
  rfl

theorem ok_of_mapError {ε δ : Type} {x : Except ε α} {f : ε → δ} (h : x.mapError f = .ok a) :
    x = .ok a := by
  cases x with
  | error e => cases h
  | ok b => exact congrArg Except.ok (Except.ok.inj h)

theorem of_field {read : Datum → Reading α} {default : α} (h : field name read default d = .ok a) :
    a = default ∨ ∃ item, d.get? name = some item ∧ read item = .ok a := by
  unfold field at h
  split at h
  · exact .inl (Except.ok.inj h).symm
  · next item hget => exact .inr ⟨item, hget, ok_of_mapError h⟩

theorem of_record {read : Datum → Checked α} {default : α}
    (h : record name read default d = .ok a) :
    a = default ∨ ∃ item, d.get? name = some item ∧ read item = .ok a := by
  unfold record at h
  split at h
  · exact .inl (Except.ok.inj h).symm
  · next entries hget => exact .inr ⟨.map entries, hget, ok_of_mapError h⟩
  · cases h

theorem both_eq_ok {x : Checked α} {y : Checked β} (h : x.both y = .ok (a, b)) :
    x = .ok a ∧ y = .ok b := by
  cases x <;> cases y <;> cases h
  exact ⟨rfl, rfl⟩

end Checked

theorem RenderSettings.check_toDatum (s : RenderSettings) : check s.toDatum = .ok s := by
  have hmode : Reading.choice RenderMode.ofName? (.str s.mode.name) = .ok s.mode := by
    rw [Reading.choice, RenderMode.ofName?_name]
    rfl
  have hstrip : Reading.condition (.bool s.stripPaths) = .ok s.stripPaths := rfl
  rw [check, Checked.field_of_get? rfl hmode, Checked.field_of_get? rfl hstrip]
  rfl

theorem AssemblySettings.check_toDatum (s : AssemblySettings) : check s.toDatum = .ok s := by
  have hworkers : Reading.optional WorkerCount.read
      ((s.workers.map fun w => Datum.int w.count).getD .null) = .ok s.workers :=
    Reading.optional_getD WorkerCount.read_int (fun _ => nofun) s.workers
  have hlimit : Reading.optional TimeLimit.read
      ((s.limit.map fun l => Datum.float l.seconds).getD .null) = .ok s.limit :=
    Reading.optional_getD TimeLimit.read_float (fun _ => nofun) s.limit
  rw [check, Checked.field_of_get? rfl hworkers, Checked.field_of_get? rfl hlimit]
  rfl

namespace Settings

variable {s : Settings} {bundle : PathName} {d : Datum}

/-- What the types of the fields leave open: the paths are spelled by some text, and the time limit
is a number of binary64. -/
structure Admitted (s : Settings) : Prop where
  templates : s.templates.Normal
  output : s.output.Normal
  limit : ∀ l, s.assembly.limit = some l → l.seconds.IsBinary64

/-- Settings are read from the record of them as they are. -/
theorem Admitted.check_toDatum (h : s.Admitted) (bundle : PathName) :
    check bundle s.toDatum = .ok s := by
  have htemplates : Reading.path (.str s.templates.text) = .ok s.templates :=
    congrArg Except.ok h.templates.ofString_text
  have houtput : Reading.path (.str s.output.text) = .ok s.output :=
    congrArg Except.ok h.output.ofString_text
  have hoverwrite : Reading.condition (.bool s.overwrite) = .ok s.overwrite := rfl
  have hown : checkOwn bundle s.toDatum = .ok (s.templates, s.output, s.overwrite) := by
    rw [checkOwn, Checked.field_of_get? rfl htemplates, Checked.field_of_get? rfl houtput,
      Checked.field_of_get? rfl hoverwrite]
    rfl
  have hrender : Checked.record "render" RenderSettings.check {} s.toDatum = .ok s.render :=
    Checked.record_of_get? rfl s.render.check_toDatum {}
  have hassembly : Checked.record "assembly" AssemblySettings.check {} s.toDatum = .ok s.assembly :=
    Checked.record_of_get? rfl s.assembly.check_toDatum {}
  rw [toDatum] at hown hrender hassembly ⊢
  rw [check]
  dsimp only
  rw [hown, hrender, hassembly]
  rfl

theorem normal_of_field {name : String} {p default : PathName} (hdefault : default.Normal)
    (h : Checked.field name Reading.path default d = .ok p) : p.Normal := by
  rcases Checked.of_field h with rfl | ⟨item, -, hread⟩
  · exact hdefault
  · unfold Reading.path at hread
    split at hread
    · cases hread
      exact PathName.normal_ofString _
    · cases hread

theorem isBinary64_of_check {assembly : AssemblySettings} {l : TimeLimit}
    (h : AssemblySettings.check d = .ok assembly) (hl : assembly.limit = some l)
    (hlimit : ∀ item, d.get? "timeout" = some item →
      ∀ x, item = .float x ∨ item = .enum (.float x) → x.IsBinary64) : l.seconds.IsBinary64 := by
  obtain ⟨⟨workers, limit⟩, hboth, rfl⟩ := Datum.exists_of_map_eq_ok h
  obtain rfl : limit = some l := hl
  obtain ⟨-, hfield⟩ := Checked.both_eq_ok hboth
  rcases Checked.of_field hfield with hnone | ⟨item, hget, hread⟩
  · cases hnone
  · unfold Reading.optional at hread
    split at hread
    · cases hread
    · have hread : TimeLimit.read item = .ok l := by
        obtain ⟨read, hread, heq⟩ := Datum.exists_of_map_eq_ok hread
        rwa [Option.some.inj heq] at hread
      obtain ⟨x, hdouble, hcheck⟩ := Datum.exists_of_bind_eq_ok hread
      rw [TimeLimit.check_eq_ok hcheck]
      exact Reading.isBinary64_double hdouble (hlimit _ hget)

/-- A time limit that is given as a double is one of binary64. -/
def GivesBinary64 (d : Datum) : Prop :=
  ∀ item, (d.get? "assembly").bind (·.get? "timeout") = some item →
    ∀ x, item = .float x ∨ item = .enum (.float x) → x.IsBinary64

theorem admitted_of_check (hbundle : bundle.Normal) (h : check bundle d = .ok s)
    (hgives : GivesBinary64 d) : s.Admitted := by
  unfold check at h
  split at h
  · next entries =>
      obtain ⟨⟨⟨templates, output, overwrite⟩, render, assembly⟩, hboth, rfl⟩ :=
        Datum.exists_of_map_eq_ok h
      obtain ⟨hown, hrecords⟩ := Checked.both_eq_ok hboth
      obtain ⟨-, hassembly⟩ := Checked.both_eq_ok hrecords
      obtain ⟨htemplates, hrest⟩ := Checked.both_eq_ok hown
      obtain ⟨houtput, -⟩ := Checked.both_eq_ok hrest
      refine ⟨normal_of_field hbundle htemplates, normal_of_field ?_ houtput, fun l hl => ?_⟩
      · exact PathName.normal_ofString "output"
      · rcases Checked.of_record hassembly with rfl | ⟨item, hget, hcheck⟩
        · cases hl
        · refine isBinary64_of_check hcheck hl fun inner hinner => hgives inner ?_
          rw [hget]
          exact hinner
  · cases h

/-- The admitted settings are those that validation reads from some datum. -/
theorem admitted_iff_check (hbundle : bundle.Normal) :
    s.Admitted ↔ ∃ d, GivesBinary64 d ∧ check bundle d = .ok s := by
  constructor
  · intro h
    refine ⟨s.toDatum, ?_, h.check_toDatum bundle⟩
    rintro _ ⟨⟩ x hfloat
    cases hl : s.assembly.limit with
    | none => simp [hl] at hfloat
    | some l =>
        obtain rfl : l.seconds = x := by simpa [hl] using hfloat
        exact h.limit l hl
  · rintro ⟨d, hgives, hcheck⟩
    exact admitted_of_check hbundle hcheck hgives

/-- The settings that saving keeps: a time limit that is not finite is left out. -/
def kept (s : Settings) : Settings :=
  { s with assembly := { s.assembly with limit := s.assembly.limit.filter (·.seconds.isFinite) } }

theorem print_kept (s : Settings) :
    Json.print .record s.kept.toDatum = Json.print .record s.toDatum := by
  obtain ⟨templates, output, overwrite, render, ⟨workers, limit⟩⟩ := s
  rcases limit with _ | ⟨seconds, hpos⟩
  · rfl
  · rcases seconds with _ | (_ | _) | ⟨negative, m, e⟩
    · rfl
    · rfl
    · rfl
    · rfl

theorem Admitted.kept (h : s.Admitted) : s.kept.Admitted where
  templates := h.templates
  output := h.output
  limit := fun l hl => h.limit l (Option.filter_eq_some_iff.mp hl).1

theorem limit_kept_iff :
    s.kept.assembly.limit = s.assembly.limit ↔
      ∀ l, s.assembly.limit = some l → l.seconds.isFinite := by
  change s.assembly.limit.filter _ = s.assembly.limit ↔ _
  cases s.assembly.limit <;> simp [Option.filter]

theorem Admitted.legible_kept (h : s.Admitted) : Json.Legible s.kept.toDatum := by
  have hworkers :
      Json.Legible ((s.assembly.workers.map fun w => Datum.int w.count).getD .null) :=
    .optional fun w _ => .int w.count
  have hlimit :
      Json.Legible ((s.kept.assembly.limit.map fun l => Datum.float l.seconds).getD .null) := by
    refine .optional fun l hl => ?_
    obtain ⟨hthere, hfinite⟩ := Option.filter_eq_some_iff.mp hl
    exact .of_isFinite hfinite (h.limit l hthere)
  have hrender : Json.Legible s.render.toDatum := by
    refine .record [(_, _), (_, _)] ?_ (by simp)
    simp only [List.forall_mem_cons]
    exact ⟨.str _, .bool _, List.forall_mem_nil _⟩
  have hassembly : Json.Legible s.kept.assembly.toDatum := by
    refine .record [(_, _), (_, _)] ?_ (by simp)
    simp only [List.forall_mem_cons]
    exact ⟨hworkers, hlimit, List.forall_mem_nil _⟩
  refine .record [(_, _), (_, _), (_, _), (_, _), (_, _)] ?_ (by simp)
  simp only [List.forall_mem_cons]
  exact ⟨.str _, .str _, .bool _, hrender, hassembly, List.forall_mem_nil _⟩

/-- Where settings are saved, the kept ones are loaded. -/
theorem Admitted.load_of_save {t u : FileTree} {cwd : Location} {path : Option PathName}
    {p : PathName} (h : s.Admitted) (hsave : s.save t cwd path = (u, .ok p)) (bundle : PathName) :
    load bundle u cwd p = .ok s.kept := by
  unfold save at hsave
  dsimp only at hsave
  split at hsave
  · next hwritten =>
      cases hsave
      obtain ⟨text, hprint, hread⟩ :=
        ConfigFile.textRead_of_saveJson Json.Layout.noReturns_record hwritten
          (path.getD s.settingsPath).text
      obtain ⟨printed, hprinted, hparse⟩ :=
        Json.parse?_print Json.Layout.standard_record h.legible_kept
      rw [print_kept, hprint] at hprinted
      cases hprinted
      have hparse : Json.parse? text = some s.kept.toDatum := by
        simpa using hparse [] (List.forall_mem_nil _)
      rw [load, hread]
      dsimp only
      rw [parse, hparse]
      dsimp only
      rw [h.kept.check_toDatum]
      rfl
  · cases hsave

end Settings

/-! ## A run with saved settings -/

/-- The numbers that are set are ones that validation lets through. -/
structure Overrides.Valid (o : Overrides) : Prop where
  workers : ∀ n, o.workers = some n → 0 < n
  limit : ∀ x, o.limit = some x → x.le .zero = false

/-- The new value is the old one if nothing is given, and fits what is given else. -/
def Settles {α β : Type} (given : Option α) (fits : α → β → Prop) (old new : β) : Prop :=
  (given = none → new = old) ∧ ∀ x, given = some x → fits x new

namespace Settings

/-- A run has what is set for it, and the settings in all else. -/
structure Follows (s : Settings) (o : Overrides) (run : Settings) : Prop where
  templates : Settles o.templates (fun text p => p = .ofString text) s.templates run.templates
  output : Settles o.output (fun text p => p = .ofString text) s.output run.output
  overwrite : if o.overwrite then run.overwrite = true else run.overwrite = s.overwrite
  mode : if o.lenient then run.render.mode = .lenient else run.render.mode = s.render.mode
  stripPaths : run.render.stripPaths = s.render.stripPaths
  workers : Settles o.workers (fun n found => ∃ w, found = some w ∧ (w.count : Int) = n)
    s.assembly.workers run.assembly.workers
  limit : Settles o.limit (fun x found => ∃ l, found = some l ∧ l.seconds = x)
    s.assembly.limit run.assembly.limit

variable {s run : Settings} {o : Overrides}

theorem follows_nothing_iff : s.Follows {} run ↔ run = s := by
  constructor
  · intro h
    obtain ⟨templates, output, overwrite, ⟨mode, stripPaths⟩, ⟨workers, limit⟩⟩ := run
    obtain rfl : templates = s.templates := h.templates.1 rfl
    obtain rfl : output = s.output := h.output.1 rfl
    obtain rfl : overwrite = s.overwrite := h.overwrite
    obtain rfl : mode = s.render.mode := h.mode
    obtain rfl : stripPaths = s.render.stripPaths := h.stripPaths
    obtain rfl : workers = s.assembly.workers := h.workers.1 rfl
    obtain rfl : limit = s.assembly.limit := h.limit.1 rfl
    rfl
  · rintro rfl
    exact ⟨⟨fun _ => rfl, nofun⟩, ⟨fun _ => rfl, nofun⟩, rfl, rfl, rfl, ⟨fun _ => rfl, nofun⟩,
      ⟨fun _ => rfl, nofun⟩⟩

/-- An empty text does not replace a path. -/
theorem settles_replaced_iff {p : PathName} {text? : Option String} :
    Settles text? (fun text p => p = .ofString text) p (replaced p text?) ↔
      (text? = some "" → p = .ofString "") := by
  cases text? with
  | none => exact iff_of_true ⟨fun _ => rfl, nofun⟩ nofun
  | some text =>
      by_cases hempty : text = ""
      · subst hempty
        exact ⟨fun h _ => h.2 "" rfl,
          fun h => ⟨nofun, fun _ hsome => Option.some.inj hsome ▸ h rfl⟩⟩
      · have hset : replaced p (some text) = .ofString text := by
          simp [replaced, Option.filter, hempty]
        refine iff_of_true ⟨nofun, ?_⟩ fun h => absurd (Option.some.inj h) hempty
        rintro _ ⟨⟩
        exact hset

/-- A number that passes its check is what the field is renewed to. -/
theorem exists_renewed {α β : Type} (check : α → Reading β) {fits : α → β → Prop}
    {given : Option α} (h : ∀ x, given = some x → ∃ b, check x = .ok b ∧ fits x b)
    (name : String) (old : Option β) :
    ∃ new, renewed name check old given = .ok new ∧
      Settles given (fun x found => ∃ b, found = some b ∧ fits x b) old new := by
  cases given with
  | none => exact ⟨old, rfl, fun _ => rfl, nofun⟩
  | some x =>
      obtain ⟨b, hcheck, hfits⟩ := h x rfl
      refine ⟨some b, ?_, nofun, ?_⟩
      · rw [renewed, hcheck]
        rfl
      · rintro _ ⟨⟩
        exact ⟨b, rfl, hfits⟩

theorem exists_override (s : Settings) (h : o.Valid) :
    ∃ workers limit,
      Settles o.workers (fun n found => ∃ w, found = some w ∧ (w.count : Int) = n)
        s.assembly.workers workers ∧
      Settles o.limit (fun x found => ∃ l, found = some l ∧ l.seconds = x)
        s.assembly.limit limit ∧
      s.override o = .ok
        ⟨replaced s.templates o.templates, replaced s.output o.output, s.overwrite || o.overwrite,
          { s.render with mode := if o.lenient then .lenient else s.render.mode },
          ⟨workers, limit⟩⟩ := by
  obtain ⟨workers, hworkers, hcount⟩ := exists_renewed WorkerCount.check
    (fun n hn => WorkerCount.exists_check (h.workers n hn)) "max_workers" s.assembly.workers
  obtain ⟨limit, hlimit, hseconds⟩ := exists_renewed TimeLimit.check
    (fun x hx => TimeLimit.exists_check (h.limit x hx)) "timeout" s.assembly.limit
  refine ⟨workers, limit, hcount, hseconds, ?_⟩
  rw [override]
  dsimp only
  rw [hworkers, hlimit]
  rfl

/-- A run with the kept settings follows all of them if no path is set to an empty text and the time
limit that is not set was kept. -/
theorem exists_override_kept (s : Settings) (h : o.Valid) :
    ∃ run, s.kept.override o = .ok run ∧
      (s.Follows o run ↔
        (o.templates = some "" → s.templates = .ofString "") ∧
          (o.output = some "" → s.output = .ofString "") ∧
          (o.limit = none → ∀ l, s.assembly.limit = some l → l.seconds.isFinite)) := by
  obtain ⟨workers, limit, hworkers, hlimit, hrun⟩ := exists_override s.kept h
  refine ⟨_, hrun, ?_⟩
  constructor
  · intro hfollows
    refine ⟨settles_replaced_iff.mp hfollows.templates, settles_replaced_iff.mp hfollows.output,
      fun hnone => limit_kept_iff.mp ?_⟩
    exact (hlimit.1 hnone).symm.trans (hfollows.limit.1 hnone)
  · rintro ⟨htemplates, houtput, hfinite⟩
    exact
      { templates := settles_replaced_iff.mpr htemplates
        output := settles_replaced_iff.mpr houtput
        overwrite := by cases o.overwrite <;> simp [kept]
        mode := by cases o.lenient <;> simp [kept]
        stripPaths := rfl
        workers := hworkers
        limit :=
          ⟨fun hnone => (hlimit.1 hnone).trans (limit_kept_iff.mpr (hfinite hnone)), hlimit.2⟩ }

end Settings

/-- Whoever names saved settings runs with the kept ones and what the run sets for itself. -/
theorem Command.prepare_of_save {s run : Settings} {t u : FileTree} {cwd : Location}
    {path : Option PathName} {p : PathName} {a : Arguments} {config : PatternConfig}
    (hadmitted : s.Admitted) (hsave : s.save t cwd path = (u, .ok p))
    (hnamed : ∃ name, a.settings? = some name ∧ name ≠ "" ∧ .ofString name = p)
    (hconfig : readConfig u cwd (.ofString a.config) = .ok config)
    (hrun : s.kept.override a.overrides = .ok run) (env : Environment) :
    prepare env u cwd a = .ok (config, run) := by
  obtain ⟨name, hname, hgiven, rfl⟩ := hnamed
  have hread : readSettings env u cwd a = .ok s.kept := by
    have hfilter : a.settings?.filter (· != "") = some name := by
      rw [hname]
      simp [Option.filter, hgiven]
    rw [readSettings, hfilter]
    dsimp only
    rw [hadmitted.load_of_save hsave env.bundle]
    rfl
  rw [prepare, hconfig, hread]
  change (s.kept.override a.overrides).mapError _ >>= _ = _
  rw [hrun]
  rfl

/-- With the saved settings a run has what is set for it and the settings in all else, exactly if
the saved time limit is finite where none is set, and no empty text is set for a path that is not
the one of that text. -/
theorem saved_settings_reproduced_iff {s : Settings} {t u : FileTree} {cwd : Location}
    {path : Option PathName} {p : PathName} {a : Arguments} {config : PatternConfig}
    (hadmitted : s.Admitted) (hsave : s.save t cwd path = (u, .ok p))
    (hnamed : ∃ name, a.settings? = some name ∧ name ≠ "" ∧ .ofString name = p)
    (hconfig : Command.readConfig u cwd (.ofString a.config) = .ok config)
    (hvalid : a.overrides.Valid) (env : Environment) :
    ∃ run, Command.prepare env u cwd a = .ok (config, run) ∧
      (s.Follows a.overrides run ↔
        (a.overrides.templates = some "" → s.templates = .ofString "") ∧
          (a.overrides.output = some "" → s.output = .ofString "") ∧
          (a.overrides.limit = none → ∀ l, s.assembly.limit = some l → l.seconds.isFinite)) ∧
      (a.overrides = {} → (run = s ↔ ∀ l, s.assembly.limit = some l → l.seconds.isFinite)) := by
  obtain ⟨run, hrun, hfollows⟩ := s.exists_override_kept hvalid
  refine ⟨run, Command.prepare_of_save hadmitted hsave hnamed hconfig hrun env, hfollows,
    fun hnothing => ?_⟩
  rw [hnothing] at hfollows
  rw [← Settings.follows_nothing_iff, hfollows]
  simp

/-- A directory with a request in it. -/
def savingTree : FileTree :=
  ⟨[(["c.json"], .file "\x7b\"patternName\": \"demo\"\x7d".toUTF8)]⟩

def savingEnvironment : Environment where
  assignments := []
  bundle := .ofString "t"

def limitedSettings (limit : TimeLimit) : Settings :=
  { Settings.standard (.ofString "t") with assembly := ⟨WorkerCount.ofInt? 3, some limit⟩ }

theorem admitted_limitedSettings {limit : TimeLimit} (h : limit.seconds.IsBinary64) :
    (limitedSettings limit).Admitted where
  templates := PathName.normal_ofString "t"
  output := PathName.normal_ofString "output"
  limit := by
    rintro _ ⟨⟩
    exact h

theorem exists_config_of_isSome {t : FileTree} {cwd : Location} {p : PathName}
    (h : (Command.readConfig t cwd p).toOption.isSome) :
    ∃ config, Command.readConfig t cwd p = .ok config := by
  cases hconfig : Command.readConfig t cwd p with
  | error refusal =>
      rw [hconfig] at h
      cases h
  | ok config => exact ⟨config, rfl⟩

/-- Twelve seconds and a half. -/
def shortLimit : TimeLimit :=
  ⟨.ofFraction false 25 2, by decide +kernel⟩

def resumingArguments (overrides : Overrides) : Arguments where
  config := "c.json"
  overrides := overrides
  settings? := some "output/.ace/config.json"

theorem saved_settings_reproduced_example :
    ∃ u config run,
      (limitedSettings shortLimit).save savingTree [] none
        = (u, .ok (.ofString "output/.ace/config.json")) ∧
      Command.prepare savingEnvironment u [] (resumingArguments { workers := some 2 })
        = .ok (config, run) ∧
      (limitedSettings shortLimit).Follows { workers := some 2 } run := by
  have hbinary : shortLimit.seconds.IsBinary64 := Double.isBinary64_ofFraction false 25 Nat.two_pos
  have hsaved : ((limitedSettings shortLimit).save savingTree [] none).2
      = .ok (.ofString "output/.ace/config.json") := by decide +kernel
  have hthere : (Command.readConfig ((limitedSettings shortLimit).save savingTree [] none).1 []
      (.ofString "c.json")).toOption.isSome := by decide +kernel
  obtain ⟨config, hconfig⟩ := exists_config_of_isSome hthere
  obtain ⟨run, hrun, hfollows, -⟩ := saved_settings_reproduced_iff
    (a := resumingArguments { workers := some 2 }) (admitted_limitedSettings hbinary)
    (Prod.ext rfl hsaved) ⟨_, rfl, by decide, rfl⟩ hconfig
    ⟨by rintro _ ⟨⟩; decide, nofun⟩ savingEnvironment
  exact ⟨_, config, run, Prod.ext rfl hsaved, hrun,
    hfollows.mpr ⟨nofun, nofun, fun _ => by rintro _ ⟨⟩; decide +kernel⟩⟩

def endlessLimit : TimeLimit :=
  ⟨.infinite false, rfl⟩

/-- A limit that never comes is admitted, and missing in a run with the saved settings. -/
theorem endless_limit_not_reproduced :
    (limitedSettings endlessLimit).Admitted ∧
    ∃ u config run,
      (limitedSettings endlessLimit).save savingTree [] none
        = (u, .ok (.ofString "output/.ace/config.json")) ∧
      Command.prepare savingEnvironment u [] (resumingArguments {}) = .ok (config, run) ∧
      run.assembly.limit = none ∧ run ≠ limitedSettings endlessLimit := by
  have hadmitted : (limitedSettings endlessLimit).Admitted := admitted_limitedSettings trivial
  have hsaved : ((limitedSettings endlessLimit).save savingTree [] none).2
      = .ok (.ofString "output/.ace/config.json") := by decide +kernel
  have hthere : (Command.readConfig ((limitedSettings endlessLimit).save savingTree [] none).1 []
      (.ofString "c.json")).toOption.isSome := by decide +kernel
  obtain ⟨config, hconfig⟩ := exists_config_of_isSome hthere
  have hrun := Command.prepare_of_save (a := resumingArguments {}) hadmitted
    (Prod.ext rfl hsaved) ⟨_, rfl, by decide, rfl⟩ hconfig rfl savingEnvironment
  exact ⟨hadmitted, _, config, _, Prod.ext rfl hsaved, hrun, rfl, by decide +kernel⟩

end Scaffold
