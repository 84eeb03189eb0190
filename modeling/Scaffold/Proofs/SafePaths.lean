import Scaffold.Files.Tree
import Scaffold.Proofs.Leniency

namespace Scaffold

/-!
# Paths that stay below a directory

A path that is accepted has only names and single dots between its slashes.
Followed from any directory it never leads above that directory, and it
ends below it at the names of the path. All paths of a file set that was
assembled are of this kind, and no two of them are the same.
-/

/-! ## Following names without looking at a tree -/

namespace Location

theorem follow_of_no_parent {names : List String} (h : ".." ∉ names) (place : Location) :
    follow place names = place ++ names.filter fun name => name != "" && name != "." := by
  induction names generalizing place with
  | nil => simp [follow]
  | cons name names ih =>
      obtain ⟨hname, hnames⟩ := not_or.mp fun hmem => h (List.mem_cons.mpr hmem)
      have hstep : follow place (name :: names) = follow (enter place name) names := rfl
      rw [hstep, ih hnames, enter]
      by_cases hstay : name = "" ∨ name = "."
      · rw [if_pos hstay]
        rcases hstay with rfl | rfl <;> simp
      · obtain ⟨hempty, hdot⟩ := not_or.mp hstay
        rw [if_neg hstay, if_neg (Ne.symm hname)]
        simp [hempty, hdot]

end Location

/-! ## What is accepted -/

namespace OutputPath

/-- The texts between the slashes of a path. -/
def names (path : String) : List String :=
  (segments path.toList).map String.ofList

/-- The names that a path leads through: single dots lead nowhere. -/
def components (path : String) : List String :=
  (names path).filter (· != ".")

/-- Nothing in the path leads away from the directory that it is taken in. -/
structure Safe (path : String) : Prop where
  ne_empty : path ≠ ""
  relative : path.toList.head? ≠ some '/'
  noDrive : ∀ c rest, c.isAlpha = true → path.toList ≠ c :: ':' :: rest
  noBackslash : '\\' ∉ path.toList
  noNul : '\x00' ∉ path.toList
  noEmpty : "" ∉ names path
  noParent : ".." ∉ names path

theorem hasDrive_iff {path : List Char} :
    hasDrive path = true ↔ ∃ c rest, c.isAlpha = true ∧ path = c :: ':' :: rest := by
  constructor
  · intro h
    unfold hasDrive at h
    split at h
    · next c rest => exact ⟨c, rest, h, rfl⟩
    · cases h
  · rintro ⟨c, rest, hc, rfl⟩
    exact hc

theorem segmentDanger?_eq_none_iff {segment : List Char} :
    segmentDanger? segment = none ↔ segment ≠ [] ∧ segment ≠ ['.', '.'] := by
  unfold segmentDanger?
  by_cases hempty : segment = []
  · simp [hempty]
  · by_cases hparent : segment = ['.', '.']
    · simp [hparent]
    · simp [hempty, hparent]

theorem mem_names_iff {name path : String} :
    name ∈ names path ↔ name.toList ∈ segments path.toList := by
  rw [names, List.mem_map]
  constructor
  · rintro ⟨segment, hsegment, rfl⟩
    rwa [String.toList_ofList]
  · intro h
    exact ⟨name.toList, h, String.ofList_toList⟩

theorem names_empty : names "" = [""] := by
  decide

theorem danger?_eq_none_iff {path : String} : danger? path.toList = none ↔ Safe path := by
  unfold danger?
  constructor
  · intro h
    split at h
    · cases h
    · next hrelative =>
        split at h
        · cases h
        · next hdrive =>
            split at h
            · cases h
            · next hbackslash =>
                split at h
                · cases h
                · next hnul =>
                    rw [List.findSome?_eq_none_iff] at h
                    have hempty : "" ∉ names path := fun hmem =>
                      (segmentDanger?_eq_none_iff.mp (h _ (mem_names_iff.mp hmem))).1 rfl
                    have hparent : ".." ∉ names path := fun hmem =>
                      (segmentDanger?_eq_none_iff.mp (h _ (mem_names_iff.mp hmem))).2 rfl
                    refine ⟨?_, hrelative, ?_, hbackslash, hnul, hempty, hparent⟩
                    · rintro rfl
                      exact hempty (names_empty ▸ List.mem_singleton_self "")
                    · intro c rest hc hpath
                      exact hdrive (hasDrive_iff.mpr ⟨c, rest, hc, hpath⟩)
  · intro h
    have hdrive : ¬hasDrive path.toList = true := by
      rw [hasDrive_iff]
      rintro ⟨c, rest, hc, hpath⟩
      exact h.noDrive c rest hc hpath
    rw [if_neg h.relative, if_neg hdrive, if_neg h.noBackslash, if_neg h.noNul,
      List.findSome?_eq_none_iff]
    intro segment hsegment
    have hname : String.ofList segment ∈ names path :=
      List.mem_map_of_mem hsegment
    refine segmentDanger?_eq_none_iff.mpr ⟨?_, ?_⟩
    · rintro rfl
      exact h.noEmpty hname
    · rintro rfl
      exact h.noParent hname

theorem validate_eq_ok_iff {path : String} : validate path = .ok () ↔ Safe path := by
  rw [← danger?_eq_none_iff, validate]
  cases danger? path.toList <;> simp

/-- Every path that is refused has a reason. -/
theorem reason_of_validate {path : String} {e : UnsafePath} (h : validate path = .error e) :
    path = "" ∨ path.toList.head? = some '/' ∨
      (∃ c rest, c.isAlpha = true ∧ path.toList = c :: ':' :: rest) ∨ '\\' ∈ path.toList ∨
      '\x00' ∈ path.toList ∨ "" ∈ names path ∨ ".." ∈ names path := by
  refine Classical.byContradiction fun hnone => ?_
  simp only [not_or, not_exists, not_and] at hnone
  obtain ⟨hempty, hrelative, hdrive, hbackslash, hnul, hnames, hparent⟩ := hnone
  have hsafe : Safe path := ⟨hempty, hrelative, hdrive, hbackslash, hnul, hnames, hparent⟩
  rw [validate_eq_ok_iff.mpr hsafe] at h
  cases h

theorem Safe.filter_names {path : String} (h : Safe path) {front : List String}
    (hfront : front <+: names path) :
    front.filter (fun name => name != "" && name != ".") = front.filter (· != ".") := by
  apply List.filter_congr
  intro name hname
  have hne : name ≠ "" := fun heq => h.noEmpty (heq ▸ hfront.subset hname)
  simp [hne]

theorem Safe.follow {path : String} (h : Safe path) (root : Location) {front : List String}
    (hfront : front <+: names path) :
    Location.follow root front = root ++ front.filter (· != ".") := by
  have hparent : ".." ∉ front := fun hmem => h.noParent (hfront.subset hmem)
  rw [Location.follow_of_no_parent hparent, h.filter_names hfront]

theorem Safe.partsOf {path : String} (h : Safe path) : PathName.partsOf path = components path :=
  h.filter_names (List.prefix_refl _)

end OutputPath

/-! ## The paths of file sets -/

namespace Datum

theorem putEntry_of_new {key item : Datum} {entries : List (Datum × Datum)}
    (h : ∀ e ∈ entries, sameKey e.1 key = false) :
    putEntry key item entries = entries ++ [(key, item)] := by
  induction entries with
  | nil => rfl
  | cons e entries ih =>
      obtain ⟨he, hentries⟩ := List.forall_mem_cons.mp h
      rw [putEntry, he, ih hentries]
      simp

theorem foldl_putEntry_of_distinct {put : List (Datum × Datum) → Datum × Datum → List (Datum × Datum)}
    (hput : ∀ done e, put done e = putEntry e.1 e.2 done) {entries done : List (Datum × Datum)}
    (h : (done ++ entries).Pairwise fun e e' => sameKey e.1 e'.1 = false) :
    entries.foldl put done = done ++ entries := by
  induction entries generalizing done with
  | nil => simp
  | cons e entries ih =>
      have hnew : ∀ g ∈ done, sameKey g.1 e.1 = false := fun g hg =>
        (List.pairwise_append.mp h).2.2 g hg e List.mem_cons_self
      have hone : put done e = done ++ [e] := (hput done e).trans (putEntry_of_new hnew)
      rw [List.foldl_cons, hone, ih (by simpa using h), List.append_assoc, List.singleton_append]

/-- Entries of which no two have one key are a map as they are. -/
theorem ofEntries_of_distinct {entries : List (Datum × Datum)}
    (h : entries.Pairwise fun e e' => sameKey e.1 e'.1 = false) :
    ofEntries entries = .map entries := by
  rw [← List.nil_append entries] at h
  rw [ofEntries, foldl_putEntry_of_distinct (fun _ _ => rfl) h, List.nil_append]

end Datum

namespace FileSet

theorem get?_toMap {s : FileSet} (h : s.paths.Nodup) (path : String) :
    s.toMap.get? path = (s.get? path).map .str := by
  have hdistinct : (s.files.map fun f => (Datum.str f.path, Datum.str f.content)).Pairwise
      fun e e' => Datum.sameKey e.1 e'.1 = false := by
    rw [List.pairwise_map]
    refine (List.pairwise_map.mp h).imp fun hne => ?_
    simpa [Datum.sameKey] using hne
  rw [toMap, Datum.ofEntries_of_distinct hdistinct, Datum.get?, get?, List.find?_map,
    Option.map_map, Option.map_map]
  rfl

end FileSet

namespace Assembler

variable {a : Assembler} {c : Context}

theorem FilesOf.produces {entries : List TemplateEntry} {files : List GeneratedFile}
    (h : FilesOf a c entries files) (hsucceeds : Succeeds a c entries) :
    ∀ f ∈ files, ∃ e ∈ entries, Produces a c e f := by
  induction h with
  | nil => simp
  | skip _ _ ih =>
      intro f hf
      obtain ⟨e, he, hproduces⟩ := ih (succeeds_concat_iff.mp hsucceeds).1 f hf
      exact ⟨e, List.mem_append_left _ he, hproduces⟩
  | @file before files e path content _ hpath hne hbody ih =>
      obtain ⟨hbefore, hlast⟩ := succeeds_concat_iff.mp hsucceeds
      intro f hf
      rcases List.mem_append.mp hf with hf | hf
      · obtain ⟨g, hg, hproduces⟩ := ih hbefore f hf
        exact ⟨g, List.mem_append_left _ hg, hproduces⟩
      · obtain rfl := List.mem_singleton.mp hf
        have hsafe := (hlast.safe path hpath hne).1
        exact ⟨e, by simp, hpath, hne, hsafe, hbody⟩

theorem FilesOf.nodup {entries : List TemplateEntry} {files : List GeneratedFile}
    (h : FilesOf a c entries files) (hsucceeds : Succeeds a c entries) :
    (files.map (·.path)).Nodup := by
  induction h with
  | nil => simp
  | skip _ _ ih => exact ih (succeeds_concat_iff.mp hsucceeds).1
  | @file before files e path content hfiles hpath hne hbody ih =>
      obtain ⟨hbefore, hlast⟩ := succeeds_concat_iff.mp hsucceeds
      have hnew : path ∉ files.map (·.path) := by
        intro hmem
        obtain ⟨f, hf, rfl⟩ := List.mem_map.mp hmem
        obtain ⟨g, hg, hproduces⟩ := hfiles.produces hbefore f hf
        exact hne (hlast.distinct g hg f.path hproduces.path hpath)
      rw [List.map_append, List.map_singleton, List.nodup_append]
      refine ⟨ih hbefore, by simp, ?_⟩
      intro other hother last hlast heq
      have hsame : other = path := heq.trans (List.mem_singleton.mp hlast)
      exact hnew (hsame ▸ hother)

/-- What holds of the paths of a file set that was assembled. -/
theorem paths_of_assemble {set : TemplateSet} {files : FileSet}
    (h : a.assemble set c = .ok files) :
    (∀ path ∈ files.paths, OutputPath.Safe path) ∧ files.paths.Nodup := by
  obtain ⟨done, hcollects, hnone, rfl⟩ := collects_of_assemble h
  have hsucceeds := hcollects.report.eq_nil_iff.mp hnone
  have hfiles := hcollects.files hnone
  refine ⟨?_, hfiles.nodup hsucceeds⟩
  intro path hpath
  obtain ⟨f, hf, rfl⟩ := List.mem_map.mp hpath
  obtain ⟨e, -, hproduces⟩ := hfiles.produces hsucceeds f hf
  exact OutputPath.validate_eq_ok_iff.mp hproduces.safe

end Assembler

/-- A concurrent run that gives files gives those that the entries give one after the other. -/
theorem Run.assemble_of_ok {r : Run} {a : Assembler} {set : TemplateSet} {c : Context}
    {files : FileSet} (h : r.assemble a set c = .ok files) : a.assemble set c = .ok files := by
  unfold Run.assemble at h
  split at h
  · split at h
    · split at h
      · next hempty =>
          cases h
          rw [Assembler.assemble, List.isEmpty_iff.mp hempty]
          rfl
      · cases h
    · cases hrun : a.assemble set c with
      | ok other =>
          rw [hrun] at h
          cases h
          rfl
      | error f =>
          rw [hrun] at h
          cases h
  · cases h

/-- Outcomes that are files can be compared, those that are reports or faults cannot. -/
theorem eq_ok_of_toOption {ε α : Type} {outcome : Except ε α} {a : α}
    (h : outcome.toOption = some a) : outcome = .ok a := by
  cases outcome with
  | ok b => exact congrArg Except.ok (Option.some.inj h)
  | error e => cases h

/-- A path that is made of what the context holds, with a dot and with blanks around it. -/
def dottedExample : TemplateSet :=
  .ofPairs [(" \x7b\x7bdir\x7d\x7d/./\x7b\x7bname\x7d\x7d.ts ", "x")] .standard

/-- All paths of a file set that was assembled, in one run or concurrently, are safe: followed name by
name from any directory they never leave it, and they end below it at their components. No two are
the same, so that a content is found by its path in the list and in the map alike. A path is
refused only for a shape that is not safe. -/
theorem assembled_paths_stay_below_root (a : Assembler) (set : TemplateSet) (c : Context) :
    (∀ files : FileSet,
      (a.assemble set c = .ok files ∨ ∃ r : Run, r.assemble a set c = .ok files) →
        (∀ path ∈ files.paths, OutputPath.Safe path ∧ ∀ root : Location,
          (∀ front, front <+: OutputPath.names path → root <+: Location.follow root front) ∧
          Location.follow root (OutputPath.names path) = root ++ OutputPath.components path) ∧
        files.paths.Nodup ∧
        ∀ path, files.toMap.get? path = (files.get? path).map .str) ∧
    ∀ (path : String) (e : UnsafePath), OutputPath.validate path = .error e →
      path = "" ∨ path.toList.head? = some '/' ∨
        (∃ letter rest, letter.isAlpha = true ∧ path.toList = letter :: ':' :: rest) ∨
        '\\' ∈ path.toList ∨ '\x00' ∈ path.toList ∨ "" ∈ OutputPath.names path ∨
        ".." ∈ OutputPath.names path := by
  refine ⟨fun files hfiles => ?_, fun path e h => OutputPath.reason_of_validate h⟩
  have hassemble : a.assemble set c = .ok files := by
    rcases hfiles with hfiles | ⟨r, hrun⟩
    · exact hfiles
    · exact Run.assemble_of_ok hrun
  obtain ⟨hsafe, hdistinct⟩ := Assembler.paths_of_assemble hassemble
  refine ⟨fun path hpath => ⟨hsafe path hpath, fun root => ⟨?_, ?_⟩⟩, hdistinct,
    FileSet.get?_toMap hdistinct⟩
  · intro front hfront
    rw [(hsafe path hpath).follow root hfront]
    exact List.prefix_append _ _
  · exact (hsafe path hpath).follow root (List.prefix_refl _)

theorem assembled_paths_stay_below_root_example :
    (Assembler.mk .strict true).assemble dottedExample ⟨[("dir", .str "src"), ("name", .str "a")]⟩
      = .ok ⟨[⟨"src/./a.ts", "x"⟩]⟩ ∧
    Location.follow ["home", "out"] ["src", ".", "a.ts"] = ["home", "out", "src", "a.ts"] ∧
    ∃ e, OutputPath.validate "a/../b" = .error e ∧ ".." ∈ OutputPath.names "a/../b" := by
  have hsome : ((Assembler.mk .strict true).assemble dottedExample
      ⟨[("dir", .str "src"), ("name", .str "a")]⟩).toOption
        = some ⟨[⟨"src/./a.ts", "x"⟩]⟩ := by decide +kernel
  have hrun := eq_ok_of_toOption hsome
  obtain ⟨hpaths, hreason⟩ := assembled_paths_stay_below_root ⟨.strict, true⟩ dottedExample
    ⟨[("dir", .str "src"), ("name", .str "a")]⟩
  have hfollow := (((hpaths _ (.inl hrun)).1 "src/./a.ts" (by simp [FileSet.paths])).2
    ["home", "out"]).2
  have hnames : OutputPath.names "src/./a.ts" = ["src", ".", "a.ts"] := by decide +kernel
  have hcomponents : OutputPath.components "src/./a.ts" = ["src", "a.ts"] := by decide +kernel
  rw [hnames, hcomponents] at hfollow
  have hdanger : OutputPath.danger? "a/../b".toList = some .parentSegment := by decide +kernel
  have hrefused : OutputPath.validate "a/../b" = .error ⟨"a/../b", .parentSegment⟩ := by
    rw [OutputPath.validate, hdanger]
  refine ⟨hrun, hfollow, _, hrefused, ?_⟩
  rcases hreason _ _ hrefused with h | h | ⟨c, rest, hc, h⟩ | h | h | h | h
  · exact absurd h (by decide)
  · exact absurd h (by decide)
  · exact absurd h (by simp)
  · exact absurd h (by decide)
  · exact absurd h (by decide)
  · exact absurd h (by decide +kernel)
  · exact h

end Scaffold
