import Mathlib.Data.List.Forall2
import Scaffold.Proofs.Outcomes
import Scaffold.Proofs.StandardHelpers

namespace Scaffold

/-!
# Assembly is all or nothing

Collecting goes through the entries in order. What it has collected so far
is always the report of the entries read, a file for each of them when
nothing is reported, and the first owner of every path. So there is a file
set exactly when every entry succeeds and no two have the same path.
-/

/-! ## Steps that may fail -/

theorem mapM_eq_ok_iff {ε α β : Type} {g : α → Except ε β} {xs : List α} {ys : List β} :
    xs.mapM g = .ok ys ↔ List.Forall₂ (fun x y => g x = .ok y) xs ys := by
  induction xs generalizing ys with
  | nil =>
      constructor
      · intro h
        cases h
        exact .nil
      · intro h
        cases h
        rfl
  | cons x xs ih =>
      rw [List.mapM_cons]
      constructor
      · intro h
        cases hx : g x with
        | error e =>
            rw [hx] at h
            cases h
        | ok y =>
            rw [hx] at h
            cases hxs : xs.mapM g with
            | error e =>
                rw [hxs] at h
                cases h
            | ok rest =>
                rw [hxs] at h
                cases h
                exact .cons hx (ih.mp hxs)
      · intro h
        cases h with
        | cons hx hxs =>
            rw [hx, ih.mpr hxs]
            rfl

theorem exists_of_mapM_eq_ok {ε α β : Type} {g : α → Except ε β} {xs : List α} {ys : List β}
    (h : xs.mapM g = .ok ys) {x : α} (hx : x ∈ xs) : ∃ y, g x = .ok y := by
  have hall := mapM_eq_ok_iff.mp h
  induction hall with
  | nil => cases hx
  | cons hxy hrest ih =>
      rcases List.mem_cons.mp hx with rfl | hx
      · exact ⟨_, hxy⟩
      · exact ih (mapM_eq_ok_iff.mpr hrest) hx

theorem exists_of_mapM_eq_error {ε α β : Type} {g : α → Except ε β} {xs : List α} {e : ε}
    (h : xs.mapM g = .error e) : ∃ x ∈ xs, g x = .error e := by
  induction xs with
  | nil => cases h
  | cons x xs ih =>
      rw [List.mapM_cons] at h
      cases hx : g x with
      | error e' =>
          rw [hx] at h
          cases h
          exact ⟨x, List.mem_cons_self, hx⟩
      | ok y =>
          rw [hx] at h
          cases hxs : xs.mapM g with
          | error e' =>
              rw [hxs] at h
              cases h
              obtain ⟨z, hz, hgz⟩ := ih hxs
              exact ⟨z, List.mem_cons_of_mem _ hz, hgz⟩
          | ok rest =>
              rw [hxs] at h
              cases h

namespace Assembler

variable (a : Assembler) (c : Context)

/-! ## What a set should give -/

/-- All that has to hold for there to be a file set. -/
structure Succeeds (entries : List TemplateEntry) : Prop where
  parses : ∀ e ∈ entries, Parses e
  renders : ∀ e ∈ entries, ∃ path, PathOf a c e path
  safe : ∀ e ∈ entries, ∀ path, PathOf a c e path → path ≠ "" →
    OutputPath.validate path = .ok () ∧ ∃ content, BodyOf a c e content
  distinct : entries.Pairwise fun e e' =>
    ∀ path, PathOf a c e path → PathOf a c e' path → path = ""

/-- The files of entries, in order: one for each path that is not empty. -/
inductive FilesOf : List TemplateEntry → List GeneratedFile → Prop
  | nil : FilesOf [] []
  | skip {before : List TemplateEntry} {files : List GeneratedFile} {e : TemplateEntry}
      (hbefore : FilesOf before files) (hpath : PathOf a c e "") : FilesOf (before ++ [e]) files
  | file {before : List TemplateEntry} {files : List GeneratedFile} {e : TemplateEntry}
      {path content : String} (hbefore : FilesOf before files) (hpath : PathOf a c e path)
      (hne : path ≠ "") (hbody : BodyOf a c e content) :
      FilesOf (before ++ [e]) (files ++ [⟨path, content⟩])

/-- The first of the entries that has a file with the path, by its identifier. -/
inductive FirstOwner (path : String) : List TemplateEntry → String → Prop
  | here {e : TemplateEntry} {rest : List TemplateEntry} {content : String}
      (h : Produces a c e ⟨path, content⟩) : FirstOwner path (e :: rest) e.identifier
  | there {e : TemplateEntry} {rest : List TemplateEntry} {owner : String}
      (h : ∀ content, ¬Produces a c e ⟨path, content⟩) (hrest : FirstOwner path rest owner) :
      FirstOwner path (e :: rest) owner

/-- What is reported of an entry behind others: what it fails with on its own, or else that an
earlier file has its path. -/
inductive Charged (before : List TemplateEntry) (e : TemplateEntry) : List ReportEntry → Prop
  | own {entries : List ReportEntry} (h : Fails a c e entries) : Charged before e entries
  | skipped (h : Skips a c e) : Charged before e []
  | duplicate {f : GeneratedFile} {owner : String} (h : Produces a c e f)
      (howner : FirstOwner a c f.path before owner) :
      Charged before e [.duplicate e.identifier f.path owner]
  | fresh {f : GeneratedFile} (h : Produces a c e f)
      (hnew : ∀ g ∈ before, ∀ content, ¬Produces a c g ⟨f.path, content⟩) : Charged before e []

/-- The report on entries: what is reported of each, in order. -/
inductive ReportOf : List TemplateEntry → List ReportEntry → Prop
  | nil : ReportOf [] []
  | concat {before : List TemplateEntry} {e : TemplateEntry} {report own : List ReportEntry}
      (hbefore : ReportOf before report) (hown : Charged a c before e own) :
      ReportOf (before ++ [e]) (report ++ own)

variable {a c}

/-! ## First owners -/

theorem FirstOwner.produces {path owner : String} {entries : List TemplateEntry}
    (h : FirstOwner a c path entries owner) :
    ∃ e ∈ entries, ∃ content, Produces a c e ⟨path, content⟩ := by
  induction h with
  | here h => exact ⟨_, List.mem_cons_self .., _, h⟩
  | there _ _ ih =>
      obtain ⟨e, he, hproduces⟩ := ih
      exact ⟨e, List.mem_cons_of_mem _ he, hproduces⟩

theorem FirstOwner.unique {path owner other : String} {entries : List TemplateEntry}
    (h : FirstOwner a c path entries owner) (hother : FirstOwner a c path entries other) :
    owner = other := by
  induction h with
  | here h =>
      cases hother with
      | here => rfl
      | there hnot => exact absurd h (hnot _)
  | there hnot _ ih =>
      cases hother with
      | here h => exact absurd h (hnot _)
      | there _ hrest => exact ih hrest

theorem FirstOwner.append {path owner : String} {entries : List TemplateEntry}
    (h : FirstOwner a c path entries owner) (more : List TemplateEntry) :
    FirstOwner a c path (entries ++ more) owner := by
  induction h with
  | here h => exact .here h
  | there hnot _ ih => exact .there hnot ih

theorem FirstOwner.concat {path content : String} {entries : List TemplateEntry}
    {e : TemplateEntry} (hnew : ∀ g ∈ entries, ∀ content, ¬Produces a c g ⟨path, content⟩)
    (h : Produces a c e ⟨path, content⟩) :
    FirstOwner a c path (entries ++ [e]) e.identifier := by
  induction entries with
  | nil => exact .here h
  | cons g entries ih =>
      obtain ⟨hg, hentries⟩ := List.forall_mem_cons.mp hnew
      exact .there hg (ih hentries)

theorem FirstOwner.of_concat {path owner : String} {entries : List TemplateEntry}
    {e : TemplateEntry} (h : FirstOwner a c path (entries ++ [e]) owner) :
    FirstOwner a c path entries owner ∨
      (∃ content, Produces a c e ⟨path, content⟩) ∧ owner = e.identifier := by
  induction entries with
  | nil =>
      cases h with
      | here h => exact Or.inr ⟨⟨_, h⟩, rfl⟩
      | there _ hrest => cases hrest
  | cons g entries ih =>
      cases h with
      | here h => exact Or.inl (.here h)
      | there hnot hrest =>
          rcases ih hrest with howner | howner
          · exact Or.inl (.there hnot howner)
          · exact Or.inr howner

theorem firstOwner_or_new (path : String) (entries : List TemplateEntry) :
    (∃ owner, FirstOwner a c path entries owner) ∨
      ∀ e ∈ entries, ∀ content, ¬Produces a c e ⟨path, content⟩ := by
  induction entries with
  | nil => exact Or.inr (by simp)
  | cons e entries ih =>
      by_cases h : ∃ content, Produces a c e ⟨path, content⟩
      · obtain ⟨content, h⟩ := h
        exact Or.inl ⟨_, .here h⟩
      · have hnot : ∀ content, ¬Produces a c e ⟨path, content⟩ := not_exists.mp h
        rcases ih with ⟨owner, howner⟩ | hnew
        · exact Or.inl ⟨owner, .there hnot howner⟩
        · exact Or.inr (List.forall_mem_cons.mpr ⟨hnot, hnew⟩)

/-! ## Collecting -/

variable (a c) in
/-- What has been collected of the entries read so far. -/
structure Collects (before : List TemplateEntry) (done : Collected) : Prop where
  report : ReportOf a c before done.failures
  files : done.failures = [] → FilesOf a c before done.files
  owners : ∀ path owner, done.owners.lookup path = some owner ↔ FirstOwner a c path before owner

theorem collects_nil : Collects a c [] ⟨[], [], []⟩ where
  report := .nil
  files _ := .nil
  owners path owner := by
    refine ⟨fun h => by simp at h, fun h => ?_⟩
    cases h

theorem firstOwner_concat_iff_of_not {path owner : String} {before : List TemplateEntry}
    {e : TemplateEntry} (h : ∀ content, ¬Produces a c e ⟨path, content⟩) :
    FirstOwner a c path (before ++ [e]) owner ↔ FirstOwner a c path before owner := by
  constructor
  · intro howner
    rcases howner.of_concat with howner | ⟨⟨content, hproduces⟩, -⟩
    · exact howner
    · exact absurd hproduces (h content)
  · intro howner
    exact howner.append [e]

theorem path_eq_of_produces {e : TemplateEntry} {f : GeneratedFile} (h : Produces a c e f)
    {path content : String} (hother : Produces a c e ⟨path, content⟩) : path = f.path :=
  hother.path.unique h.path

theorem not_produces_of_outcome {e : TemplateEntry} {o : Outcome} (h : Becomes a c e o)
    (ho : ∀ f, o ≠ .file f) (f : GeneratedFile) : ¬Produces a c e f := by
  intro hproduces
  have hfile : Becomes a c e (.file f) := hproduces
  exact ho f (h.unique hfile)

theorem Collects.step_skipped {before : List TemplateEntry} {done : Collected}
    (h : Collects a c before done) {e : TemplateEntry} (hskips : Skips a c e) :
    Collects a c (before ++ [e]) done where
  report := by simpa using ReportOf.concat h.report (.skipped hskips)
  files hnone := .skip (h.files hnone) hskips.2
  owners path owner := by
    have hbecomes : Becomes a c e .skipped := hskips
    rw [firstOwner_concat_iff_of_not fun content =>
      not_produces_of_outcome hbecomes (by simp) ⟨path, content⟩]
    exact h.owners path owner

theorem Collects.step_failed {before : List TemplateEntry} {done : Collected}
    (h : Collects a c before done) {e : TemplateEntry} {entries : List ReportEntry}
    (hne : entries ≠ []) (hfails : Fails a c e entries) :
    Collects a c (before ++ [e]) { done with failures := done.failures ++ entries } where
  report := .concat h.report (.own hfails)
  files hnone := absurd (List.append_eq_nil_iff.mp hnone).2 hne
  owners path owner := by
    have hbecomes : Becomes a c e (.failed entries) := hfails
    rw [firstOwner_concat_iff_of_not fun content =>
      not_produces_of_outcome hbecomes (by simp) ⟨path, content⟩]
    exact h.owners path owner

theorem Collects.step_duplicate {before : List TemplateEntry} {done : Collected}
    (h : Collects a c before done) {e : TemplateEntry} {f : GeneratedFile} {first : String}
    (hproduces : Produces a c e f) (hfirst : FirstOwner a c f.path before first) :
    Collects a c (before ++ [e]) { done with
      failures := done.failures ++ [.duplicate e.identifier f.path first] } where
  report := .concat h.report (.duplicate hproduces hfirst)
  files hnone := absurd (List.append_eq_nil_iff.mp hnone).2 (List.cons_ne_nil _ _)
  owners path owner := by
    rw [h.owners path owner]
    by_cases hpath : path = f.path
    · subst hpath
      constructor
      · intro howner
        exact howner.append [e]
      · intro howner
        rw [howner.unique (hfirst.append [e])]
        exact hfirst
    · have hnot : ∀ content, ¬Produces a c e ⟨path, content⟩ := fun content hother =>
        hpath (path_eq_of_produces hproduces hother)
      exact (firstOwner_concat_iff_of_not hnot).symm

theorem Collects.step_fresh {before : List TemplateEntry} {done : Collected}
    (h : Collects a c before done) {e : TemplateEntry} {f : GeneratedFile}
    (hproduces : Produces a c e f)
    (hnew : ∀ g ∈ before, ∀ content, ¬Produces a c g ⟨f.path, content⟩) :
    Collects a c (before ++ [e]) { done with
      files := done.files ++ [f]
      owners := (f.path, e.identifier) :: done.owners } where
  report := by simpa using ReportOf.concat h.report (.fresh hproduces hnew)
  files hnone := .file (h.files hnone) hproduces.path hproduces.ne_empty hproduces.body
  owners path owner := by
    by_cases hpath : path = f.path
    · subst hpath
      -- no earlier entry has the path, so the new entry is its first owner
      have hown : Produces a c e ⟨f.path, f.content⟩ := hproduces
      have howner : FirstOwner a c f.path (before ++ [e]) e.identifier := .concat hnew hown
      rw [List.lookup_cons_self, Option.some_inj]
      constructor
      · rintro rfl
        exact howner
      · intro hother
        exact howner.unique hother
    · have hnot : ∀ content, ¬Produces a c e ⟨path, content⟩ := fun content hother =>
        hpath (path_eq_of_produces hproduces hother)
      have hlookup : ((f.path, e.identifier) :: done.owners).lookup path =
          done.owners.lookup path := by
        have hbeq : (path == f.path) = false := beq_eq_false_iff_ne.mpr hpath
        rw [List.lookup_cons, hbeq]
      rw [hlookup, firstOwner_concat_iff_of_not hnot]
      exact h.owners path owner

theorem fails_ne_nil {e : TemplateEntry} {entries : List ReportEntry} (h : Fails a c e entries) :
    entries ≠ [] := by
  cases h with
  | parse h =>
      intro hnil
      obtain ⟨hpath, hbody⟩ := List.append_eq_nil_iff.mp hnil
      refine h ⟨?_, ?_⟩
      · cases hparse : e.path.parse with
        | ok nodes => exact ⟨nodes, rfl⟩
        | error err => simp [parseFailures, hparse] at hpath
      · cases hparse : e.body.parse with
        | ok nodes => exact ⟨nodes, rfl⟩
        | error err => simp [parseFailures, hparse] at hbody
  | path | danger | body => exact List.cons_ne_nil _ _

/-- One more outcome is collected. -/
theorem Collects.step {before : List TemplateEntry} {done : Collected}
    (h : Collects a c before done) {e : TemplateEntry} {o : Outcome} (ho : Becomes a c e o) :
    Collects a c (before ++ [e]) (collectOne done e o) := by
  cases o with
  | skipped => exact h.step_skipped ho
  | failed entries => exact h.step_failed (fails_ne_nil ho) ho
  | file f =>
      cases hlookup : done.owners.lookup f.path with
      | some first =>
          have hfirst : FirstOwner a c f.path before first := (h.owners _ _).mp hlookup
          simpa only [collectOne, hlookup] using h.step_duplicate ho hfirst
      | none =>
          have hnew : ∀ g ∈ before, ∀ content, ¬Produces a c g ⟨f.path, content⟩ := by
            rcases firstOwner_or_new f.path before with ⟨owner, howner⟩ | hnew
            · rw [(h.owners _ _).mpr howner] at hlookup
              cases hlookup
            · exact hnew
          simpa only [collectOne, hlookup] using h.step_fresh ho hnew

/-- Collecting the outcomes of all entries, one after the other. -/
theorem Collects.run {entries : List TemplateEntry} {outcomes : List Outcome}
    (hrun : entries.mapM (a.process c) = .ok outcomes) {before : List TemplateEntry}
    {done : Collected} (h : Collects a c before done) :
    Collects a c (before ++ entries)
      ((entries.zip outcomes).foldl (fun done (e, o) => collectOne done e o) done) := by
  induction entries generalizing before done outcomes with
  | nil =>
      cases hrun
      simpa using h
  | cons e entries ih =>
      rw [List.mapM_cons] at hrun
      cases hprocess : a.process c e with
      | error f =>
          rw [hprocess] at hrun
          cases hrun
      | ok o =>
          rw [hprocess] at hrun
          cases hrest : entries.mapM (a.process c) with
          | error f =>
              rw [hrest] at hrun
              cases hrun
          | ok rest =>
              rw [hrest] at hrun
              cases hrun
              have hstep := h.step (becomes_of_process hprocess)
              simpa using ih hrest hstep

theorem mapM_process_total {entries : List TemplateEntry}
    (htotal : ∀ e ∈ entries, e.path.helpers.Total ∧ e.body.helpers.Total) :
    ∃ outcomes, entries.mapM (a.process c) = .ok outcomes := by
  induction entries with
  | nil => exact ⟨[], rfl⟩
  | cons e entries ih =>
      obtain ⟨⟨hpath, hbody⟩, hentries⟩ := List.forall_mem_cons.mp htotal
      obtain ⟨o, ho⟩ := process_total hpath hbody
      obtain ⟨outcomes, houtcomes⟩ := ih hentries
      refine ⟨o :: outcomes, ?_⟩
      rw [List.mapM_cons, ho, houtcomes]
      rfl

/-- What a run gives, told by what it has collected. -/
theorem assemble_of_mapM {set : TemplateSet} {outcomes : List Outcome}
    (houtcomes : set.entries.mapM (a.process c) = .ok outcomes) :
    ∃ done, Collects a c set.entries done ∧
      a.assemble set c = if done.failures.isEmpty then .ok ⟨done.files⟩
        else .error (.report ⟨done.failures⟩) := by
  have hcollects := collects_nil.run houtcomes
  rw [List.nil_append] at hcollects
  refine ⟨_, hcollects, ?_⟩
  rw [assemble, houtcomes]
  dsimp only [collect]
  generalize List.foldl _ _ _ = done
  cases done.failures.isEmpty <;> rfl

/-- A file set is what was collected of a set of which nothing is reported. -/
theorem collects_of_assemble {set : TemplateSet} {files : FileSet}
    (h : a.assemble set c = .ok files) :
    ∃ done, Collects a c set.entries done ∧ done.failures = [] ∧ files = ⟨done.files⟩ := by
  cases hrun : set.entries.mapM (a.process c) with
  | error f =>
      rw [assemble, hrun] at h
      cases h
  | ok outcomes =>
      obtain ⟨done, hcollects, hassemble⟩ := assemble_of_mapM hrun
      rw [hassemble] at h
      split at h
      · next hnone =>
          cases h
          exact ⟨done, hcollects, List.isEmpty_iff.mp hnone, rfl⟩
      · cases h

theorem assemble_eq {set : TemplateSet}
    (htotal : ∀ e ∈ set.entries, e.path.helpers.Total ∧ e.body.helpers.Total) :
    ∃ done, Collects a c set.entries done ∧
      a.assemble set c = if done.failures.isEmpty then .ok ⟨done.files⟩
        else .error (.report ⟨done.failures⟩) := by
  obtain ⟨outcomes, houtcomes⟩ := mapM_process_total (a := a) (c := c) htotal
  exact assemble_of_mapM houtcomes

/-! ## Success -/

/-- Behind entries that succeed, the next one succeeds too. -/
structure SucceedsBehind (a : Assembler) (c : Context) (before : List TemplateEntry)
    (e : TemplateEntry) : Prop where
  parses : Parses e
  renders : ∃ path, PathOf a c e path
  safe : ∀ path, PathOf a c e path → path ≠ "" →
    OutputPath.validate path = .ok () ∧ ∃ content, BodyOf a c e content
  distinct : ∀ g ∈ before, ∀ path, PathOf a c g path → PathOf a c e path → path = ""

theorem succeeds_concat_iff {before : List TemplateEntry} {e : TemplateEntry} :
    Succeeds a c (before ++ [e]) ↔ Succeeds a c before ∧ SucceedsBehind a c before e := by
  constructor
  · rintro ⟨hparses, hrenders, hsafe, hdistinct⟩
    obtain ⟨hbefore, -, hlast⟩ := List.pairwise_append.mp hdistinct
    have hmem : ∀ g ∈ before, g ∈ before ++ [e] := fun g hg => List.mem_append_left _ hg
    have he : e ∈ before ++ [e] := List.mem_append_right _ (List.mem_singleton_self e)
    refine ⟨⟨?_, ?_, ?_, hbefore⟩, hparses e he, hrenders e he, hsafe e he, ?_⟩
    · exact fun g hg => hparses g (hmem g hg)
    · exact fun g hg => hrenders g (hmem g hg)
    · exact fun g hg => hsafe g (hmem g hg)
    · exact fun g hg => hlast g hg e (List.mem_singleton_self e)
  · rintro ⟨⟨hparses, hrenders, hsafe, hdistinct⟩, hparses', hrenders', hsafe', hdistinct'⟩
    refine ⟨?_, ?_, ?_, ?_⟩
    · exact List.forall_mem_append.mpr ⟨hparses, List.forall_mem_singleton.mpr hparses'⟩
    · exact List.forall_mem_append.mpr ⟨hrenders, List.forall_mem_singleton.mpr hrenders'⟩
    · exact List.forall_mem_append.mpr ⟨hsafe, List.forall_mem_singleton.mpr hsafe'⟩
    · refine List.pairwise_append.mpr ⟨hdistinct, List.pairwise_singleton _ e, ?_⟩
      intro g hg e' he'
      rw [List.mem_singleton.mp he']
      exact hdistinct' g hg

theorem Succeeds.produces {entries : List TemplateEntry} (h : Succeeds a c entries)
    {e : TemplateEntry} (he : e ∈ entries) {path : String} (hpath : PathOf a c e path)
    (hne : path ≠ "") : ∃ content, Produces a c e ⟨path, content⟩ := by
  obtain ⟨hsafe, content, hbody⟩ := h.safe e he path hpath hne
  exact ⟨content, hpath, hne, hsafe, hbody⟩

theorem not_succeedsBehind_of_fails {before : List TemplateEntry} {e : TemplateEntry}
    {own : List ReportEntry} (h : Fails a c e own) : ¬SucceedsBehind a c before e := by
  intro hsucceeds
  cases h with
  | parse h => exact h hsucceeds.parses
  | path hparses hparse hrender =>
      obtain ⟨path, nodes, rendered, hparse', hrender', -⟩ := hsucceeds.renders
      rw [hparse] at hparse'
      cases hparse'
      rw [hrender] at hrender'
      cases hrender'
  | danger _ hpath hne hdanger =>
      rw [(hsucceeds.safe _ hpath hne).1] at hdanger
      cases hdanger
  | body hpath hne _ hparse hrender =>
      obtain ⟨content, nodes, hparse', hrender'⟩ := (hsucceeds.safe _ hpath hne).2
      rw [hparse] at hparse'
      cases hparse'
      rw [hrender] at hrender'
      cases hrender'

/-- Nothing is reported of an entry exactly when it succeeds. -/
theorem Charged.eq_nil_iff {before : List TemplateEntry} {e : TemplateEntry}
    {own : List ReportEntry} (h : Charged a c before e own) (hbefore : Succeeds a c before) :
    own = [] ↔ SucceedsBehind a c before e := by
  cases h with
  | own h => exact iff_of_false (fails_ne_nil h) (not_succeedsBehind_of_fails h)
  | skipped h =>
      refine iff_of_true rfl ⟨h.1, ⟨"", h.2⟩, ?_, ?_⟩
      · intro path hpath hne
        exact absurd (hpath.unique h.2) hne
      · intro g _ path _ hpath
        exact hpath.unique h.2
  | @duplicate f owner h howner =>
      refine iff_of_false (List.cons_ne_nil _ _) ?_
      intro hsucceeds
      obtain ⟨g, hg, content, hproduces⟩ := howner.produces
      exact h.ne_empty (hsucceeds.distinct g hg f.path hproduces.path h.path)
  | @fresh f h hnew =>
      refine iff_of_true rfl ⟨h.parses, ⟨f.path, h.path⟩, ?_, ?_⟩
      · intro path hpath _
        rw [hpath.unique h.path]
        exact ⟨h.safe, f.content, h.body⟩
      · intro g hg path hother hpath
        -- an earlier entry that succeeds with this path would have its file
        by_cases hne : path = ""
        · exact hne
        · obtain ⟨content, hproduces⟩ := hbefore.produces hg hother hne
          rw [hpath.unique h.path] at hproduces
          exact absurd hproduces (hnew g hg content)

/-- Nothing is reported exactly when all that has to hold does. -/
theorem ReportOf.eq_nil_iff {entries : List TemplateEntry} {report : List ReportEntry}
    (h : ReportOf a c entries report) : report = [] ↔ Succeeds a c entries := by
  induction h with
  | nil => exact iff_of_true rfl ⟨by simp, by simp, by simp, .nil⟩
  | concat _ hown ih =>
      rw [List.append_eq_nil_iff, ih, succeeds_concat_iff]
      exact and_congr_right hown.eq_nil_iff

/-! ## There is one report and one list of files -/

theorem Charged.of_becomes {before : List TemplateEntry} {e : TemplateEntry}
    {own : List ReportEntry} {o : Outcome} (h : Charged a c before e own) (ho : Becomes a c e o) :
    match o with
    | .failed entries => own = entries
    | .skipped => own = []
    | .file f => (∃ owner, FirstOwner a c f.path before owner ∧
        own = [.duplicate e.identifier f.path owner]) ∨
      (∀ owner, ¬FirstOwner a c f.path before owner) ∧ own = [] := by
  cases h with
  | @own entries h =>
      have hfailed : Becomes a c e (.failed own) := h
      cases ho.unique hfailed
      rfl
  | skipped h =>
      have hskipped : Becomes a c e .skipped := h
      cases ho.unique hskipped
      rfl
  | @duplicate f owner h howner =>
      have hfile : Becomes a c e (.file f) := h
      cases ho.unique hfile
      exact Or.inl ⟨owner, howner, rfl⟩
  | @fresh f h hnew =>
      have hfile : Becomes a c e (.file f) := h
      cases ho.unique hfile
      refine Or.inr ⟨fun owner howner => ?_, rfl⟩
      obtain ⟨g, hg, content, hproduces⟩ := howner.produces
      exact hnew g hg content hproduces

theorem Charged.becomes {before : List TemplateEntry} {e : TemplateEntry}
    {own : List ReportEntry} (h : Charged a c before e own) : ∃ o, Becomes a c e o := by
  cases h with
  | own h => exact ⟨.failed own, h⟩
  | skipped h => exact ⟨.skipped, h⟩
  | duplicate h | fresh h => exact ⟨.file _, h⟩

theorem Charged.unique {before : List TemplateEntry} {e : TemplateEntry}
    {own other : List ReportEntry} (h : Charged a c before e own)
    (hother : Charged a c before e other) : own = other := by
  obtain ⟨o, ho⟩ := h.becomes
  have hown := h.of_becomes ho
  have hown' := hother.of_becomes ho
  cases o with
  | failed entries => exact hown.trans hown'.symm
  | skipped => exact hown.trans hown'.symm
  | file f =>
      rcases hown with ⟨owner, howner, rfl⟩ | ⟨hnone, rfl⟩
      · rcases hown' with ⟨owner', howner', rfl⟩ | ⟨hnone', rfl⟩
        · rw [howner.unique howner']
        · exact absurd howner (hnone' owner)
      · rcases hown' with ⟨owner', howner', rfl⟩ | ⟨hnone', rfl⟩
        · exact absurd howner' (hnone owner')
        · rfl

theorem ReportOf.of_concat {before : List TemplateEntry} {e : TemplateEntry}
    {report : List ReportEntry} (h : ReportOf a c (before ++ [e]) report) :
    ∃ front own, ReportOf a c before front ∧ Charged a c before e own ∧
      report = front ++ own := by
  generalize hlist : before ++ [e] = entries at h
  cases h with
  | nil => simp at hlist
  | concat hbefore hown =>
      obtain ⟨rfl, hlast⟩ := List.append_inj' hlist rfl
      cases hlast
      exact ⟨_, _, hbefore, hown, rfl⟩

theorem ReportOf.unique {entries : List TemplateEntry} {report other : List ReportEntry}
    (h : ReportOf a c entries report) (hother : ReportOf a c entries other) : report = other := by
  induction h generalizing other with
  | nil =>
      generalize hlist : ([] : List TemplateEntry) = entries at hother
      cases hother with
      | nil => rfl
      | concat => simp at hlist
  | concat _ hown ih =>
      obtain ⟨front, own, hbefore, hown', rfl⟩ := hother.of_concat
      rw [ih hbefore, hown.unique hown']

theorem FilesOf.of_concat {before : List TemplateEntry} {e : TemplateEntry}
    {files : List GeneratedFile} (h : FilesOf a c (before ++ [e]) files) :
    ∃ front, FilesOf a c before front ∧
      (PathOf a c e "" ∧ files = front ∨
        ∃ path content, PathOf a c e path ∧ path ≠ "" ∧ BodyOf a c e content ∧
          files = front ++ [⟨path, content⟩]) := by
  generalize hlist : before ++ [e] = entries at h
  cases h with
  | nil => simp at hlist
  | skip hbefore hpath =>
      obtain ⟨rfl, hlast⟩ := List.append_inj' hlist rfl
      cases hlast
      exact ⟨_, hbefore, Or.inl ⟨hpath, rfl⟩⟩
  | file hbefore hpath hne hbody =>
      obtain ⟨rfl, hlast⟩ := List.append_inj' hlist rfl
      cases hlast
      exact ⟨_, hbefore, Or.inr ⟨_, _, hpath, hne, hbody, rfl⟩⟩

theorem FilesOf.unique {entries : List TemplateEntry} {files other : List GeneratedFile}
    (h : FilesOf a c entries files) (hother : FilesOf a c entries other) : files = other := by
  induction h generalizing other with
  | nil =>
      generalize hlist : ([] : List TemplateEntry) = entries at hother
      cases hother with
      | nil => rfl
      | skip | file => simp at hlist
  | skip _ hpath ih =>
      obtain ⟨front, hbefore, ⟨-, rfl⟩ | ⟨path, content, hpath', hne, -, -⟩⟩ := hother.of_concat
      · exact ih hbefore
      · exact absurd (hpath'.unique hpath) hne
  | file _ hpath hne hbody ih =>
      obtain ⟨front, hbefore, ⟨hpath', -⟩ | ⟨path, content, hpath', -, hbody', rfl⟩⟩ :=
        hother.of_concat
      · exact absurd (hpath.unique hpath') hne
      · rw [ih hbefore, hpath.unique hpath', hbody.unique hbody']

/-! ## Entries that all succeed -/

variable (a c) in
/-- The entry parses, and these are its path and its body. -/
structure Gives (e : TemplateEntry) (f : GeneratedFile) : Prop where
  parses : Parses e
  path : PathOf a c e f.path
  body : BodyOf a c e f.content

theorem FilesOf.append_map {α : Type} {entry : α → TemplateEntry} {file : α → GeneratedFile}
    {jobs : List α} (h : ∀ j ∈ jobs, Gives a c (entry j) (file j))
    {before : List TemplateEntry} {files : List GeneratedFile}
    (hbefore : FilesOf a c before files) :
    FilesOf a c (before ++ jobs.map entry)
      (files ++ (jobs.map file).filter fun f => f.path != "") := by
  induction jobs generalizing before files with
  | nil => simpa using hbefore
  | cons j jobs ih =>
      obtain ⟨hj, hjobs⟩ := List.forall_mem_cons.mp h
      by_cases hempty : (file j).path = ""
      · have hskip := ih hjobs (.skip hbefore (hempty ▸ hj.path))
        simpa [hempty] using hskip
      · have hfile := ih hjobs (.file hbefore hj.path hempty hj.body)
        simpa [hempty] using hfile

theorem succeeds_map {α : Type} {entry : α → TemplateEntry} {file : α → GeneratedFile}
    {jobs : List α} (h : ∀ j ∈ jobs, Gives a c (entry j) (file j))
    (hsafe : ∀ j ∈ jobs, (file j).path ≠ "" → OutputPath.validate (file j).path = .ok ())
    (hdistinct : jobs.Pairwise fun j k => (file j).path = (file k).path → (file j).path = "") :
    Succeeds a c (jobs.map entry) where
  parses := List.forall_mem_map.mpr fun j hj => (h j hj).parses
  renders := List.forall_mem_map.mpr fun j hj => ⟨_, (h j hj).path⟩
  safe := by
    refine List.forall_mem_map.mpr fun j hj path hpath hne => ?_
    obtain rfl := (h j hj).path.unique hpath
    exact ⟨hsafe j hj hne, _, (h j hj).body⟩
  distinct := by
    refine List.pairwise_map.mpr (hdistinct.imp_of_mem fun {j k} hj hk hjk path hpath hpath' => ?_)
    obtain rfl := (h j hj).path.unique hpath
    exact hjk ((h k hk).path.unique hpath').symm

theorem assemble_of_succeeds {set : TemplateSet} {files : List GeneratedFile}
    (htotal : ∀ e ∈ set.entries, e.path.helpers.Total ∧ e.body.helpers.Total)
    (hsucceeds : Succeeds a c set.entries) (hfiles : FilesOf a c set.entries files) :
    a.assemble set c = .ok ⟨files⟩ := by
  obtain ⟨done, hcollects, hassemble⟩ := assemble_eq (a := a) (c := c) htotal
  have hnone : done.failures = [] := hcollects.report.eq_nil_iff.mpr hsucceeds
  rw [hassemble, if_pos (List.isEmpty_iff.mpr hnone), (hcollects.files hnone).unique hfiles]

end Assembler

/-! ## All or nothing -/

/-- When helpers do not fault, there is a file set exactly when every template parses, every path
renders, every file has a safe path and a body, and no two files have one path; it holds the files
of the entries. Otherwise there is the report on the entries. -/
theorem assemble_all_or_nothing (a : Assembler) (set : TemplateSet) (c : Context)
    (htotal : ∀ e ∈ set.entries, e.path.helpers.Total ∧ e.body.helpers.Total) :
    ((∃ files, a.assemble set c = .ok files) ↔ a.Succeeds c set.entries) ∧
    (∀ files, a.assemble set c = .ok files ↔
      a.Succeeds c set.entries ∧ a.FilesOf c set.entries files.files) ∧
    ∀ failure, a.assemble set c = .error failure ↔
      ¬a.Succeeds c set.entries ∧
        ∃ report, failure = .report report ∧ a.ReportOf c set.entries report.entries := by
  obtain ⟨done, hcollects, hassemble⟩ := Assembler.assemble_eq (a := a) (c := c) htotal
  have hsucceeds := hcollects.report.eq_nil_iff
  rw [hassemble]
  by_cases hnone : done.failures = []
  · have hok := hsucceeds.mp hnone
    rw [if_pos (List.isEmpty_iff.mpr hnone)]
    refine ⟨iff_of_true ⟨_, rfl⟩ hok, fun files => ?_, fun failure => ?_⟩
    · constructor
      · intro h
        cases h
        exact ⟨hok, hcollects.files hnone⟩
      · rintro ⟨-, hfiles⟩
        rw [(hcollects.files hnone).unique hfiles]
    · exact iff_of_false (by simp) fun h => h.1 hok
  · have hnot : ¬a.Succeeds c set.entries := fun h => hnone (hsucceeds.mpr h)
    rw [if_neg (fun h => hnone (List.isEmpty_iff.mp h))]
    refine ⟨iff_of_false (by simp) hnot, fun files => ?_, fun failure => ?_⟩
    · exact iff_of_false (by simp) fun h => hnot h.1
    · constructor
      · intro h
        cases h
        exact ⟨hnot, _, rfl, hcollects.report⟩
      · rintro ⟨-, report, rfl, hreport⟩
        rw [hcollects.report.unique hreport]

/-- A file, an entry whose path is empty and whose body is malformed, and the first file again. -/
def mixedExample : TemplateSet :=
  .ofPairs [("a", "x"), ("", "\x7b\x7b"), ("a", "y")] .standard

theorem assemble_all_or_nothing_example :
    (∀ e ∈ mixedExample.entries, e.path.helpers.Total ∧ e.body.helpers.Total) ∧
    ∃ report : Report, report.kinds = ["UnterminatedTag", "DuplicatePath"] ∧
      ¬Assembler.Succeeds ⟨.strict, true⟩ ⟨[]⟩ mixedExample.entries ∧
      Assembler.ReportOf ⟨.strict, true⟩ ⟨[]⟩ mixedExample.entries report.entries := by
  have htotal : ∀ e ∈ mixedExample.entries, e.path.helpers.Total ∧ e.body.helpers.Total := by
    intro e he
    have hstandard : e.path.helpers = .standard ∧ e.body.helpers = .standard := by
      simp only [mixedExample, TemplateSet.ofPairs, List.mapIdx_cons, List.mapIdx_nil,
        List.mem_cons, List.not_mem_nil, or_false] at he
      rcases he with rfl | rfl | rfl <;> exact ⟨rfl, rfl⟩
    rw [hstandard.1, hstandard.2]
    exact ⟨Helpers.standard_total, Helpers.standard_total⟩
  obtain ⟨report, hrun, hkinds⟩ : ∃ report : Report,
      (Assembler.mk .strict true).assemble mixedExample ⟨[]⟩ = .error (.report report) ∧
        report.kinds = ["UnterminatedTag", "DuplicatePath"] :=
    ⟨_, rfl, rfl⟩
  obtain ⟨-, -, herror⟩ := assemble_all_or_nothing ⟨.strict, true⟩ mixedExample ⟨[]⟩ htotal
  obtain ⟨hnot, reported, hreport, hentries⟩ := (herror _).mp hrun
  cases hreport
  exact ⟨htotal, report, hkinds, hnot, hentries⟩

end Scaffold
