import Mathlib.Data.List.Forall2
import Scaffold.Output.Writer
import Scaffold.Proofs.FileTrees
import Scaffold.Proofs.SafePaths

namespace Scaffold

/-!
# Writing without half-written sets

A file set is planned before it is written. When the plan is refused nothing
changes. When it is accepted the files are written one after the other, in
any order, and all these writes succeed when nothing stands in the way of a
target: no directory or link at it, no file or link above it and no other
target above it. The plan does not look for all of these, so a set can be
written half.
-/

namespace FileTree

variable {t u : FileTree} {l m : Location} {content : ByteArray}

/-! ## From one tree to a later one -/

/-- What stays of a tree while files are written: directories and files remain what they are, links
do not come up, and what is new has no long name. -/
structure Later (t u : FileTree) : Prop where
  directory : ∀ m, t.node? m = some .directory → u.node? m = some .directory
  file : ∀ m content, t.node? m = some (.file content) →
    ∃ content', u.node? m = some (.file content')
  link : ∀ m target, u.node? m = some (.link target) → t.node? m = some (.link target)
  short : ∀ m, t.node? m = none → u.node? m ≠ none → Short m

theorem Later.refl (t : FileTree) : t.Later t where
  directory _ h := h
  file _ content h := ⟨content, h⟩
  link _ _ h := h
  short _ h hne := absurd h hne

theorem Later.trans {v : FileTree} (h : t.Later u) (h' : u.Later v) : t.Later v where
  directory m hm := h'.directory m (h.directory m hm)
  file m content hm := by
    obtain ⟨content', hm'⟩ := h.file m content hm
    exact h'.file m content' hm'
  link m target hm := h.link m target (h'.link m target hm)
  short m hm hne := by
    by_cases hu : u.node? m = none
    · exact h'.short m hu hne
    · exact h.short m hm hu

theorem Later.direct (h : t.Later u) (hl : t.Direct l) : u.Direct l :=
  ⟨hl.noParent, fun m hm target hlink => hl.noLink m hm target (h.link m target hlink)⟩

/-- What can be written later can be written now. -/
theorem Later.writable (h : t.Later u) (hl : t.Direct l) (hw : u.Writable l) : t.Writable l := by
  refine ⟨?_, fun hdir => hw.noDirectory (h.directory l hdir), hl.noLink l (List.prefix_refl l), ?_⟩
  · intro m hm
    have hu := hw.above m hm
    cases hnode : t.node? m with
    | none =>
        refine .inr ⟨rfl, ?_⟩
        rcases hu with hdir | ⟨_, hshort⟩
        · exact h.short m hnode (by simp [hdir])
        · exact hshort
    | some node =>
        cases node with
        | directory => exact .inl rfl
        | file content =>
            obtain ⟨content', hfile⟩ := h.file m content hnode
            rw [hfile] at hu
            simp at hu
        | link target => exact absurd hnode (hl.noLink m (hm.trans (List.dropLast_prefix l)) target)
  · intro hnone
    by_cases hu : u.node? l = none
    · exact hw.short hu
    · exact h.short l hnone hu

theorem Writable.later (h : t.Writable l) (hstored : t.Stored l content u) : t.Later u := by
  refine ⟨fun m hdir => ?_, fun m old hfile => ?_, fun m target hlink => ?_, fun m hnone hne => ?_⟩
  · rcases place_cases m l with rfl | ⟨hm, hml⟩ | hm
    · exact absurd hdir h.noDirectory
    · exact hstored.above m hm hml
    · rw [hstored.beside m hm, hdir]
  · rcases place_cases m l with rfl | ⟨hm, hml⟩ | hm
    · exact ⟨content, hstored.file⟩
    · have hfree := h.free hm hml
      simp [hfile] at hfree
    · exact ⟨old, by rw [hstored.beside m hm, hfile]⟩
  · rcases place_cases m l with rfl | ⟨hm, hml⟩ | hm
    · rw [hstored.file] at hlink
      cases hlink
    · rw [hstored.above m hm hml] at hlink
      cases hlink
    · rwa [hstored.beside m hm] at hlink
  · rcases place_cases m l with rfl | ⟨hm, hml⟩ | hm
    · exact h.short hnone
    · rcases h.free hm hml with hdir | ⟨_, hshort⟩
      · rw [hnone] at hdir
        cases hdir
      · exact hshort
    · exact absurd (hstored.beside m hm ▸ hnone) hne

theorem Grows.later (h : t.Grows u l) : t.Later u := by
  refine ⟨fun m hdir => ?_, fun m old hfile => ?_, fun m target hlink => ?_, fun m hnone hne => ?_⟩
  all_goals rcases h m with hsame | ⟨_, hmissing, hshort, hnew⟩
  · rw [hsame, hdir]
  · exact hnew
  · exact ⟨old, by rw [hsame, hfile]⟩
  · rw [hmissing] at hfile
    cases hfile
  · rwa [hsame] at hlink
  · rw [hnew] at hlink
    cases hlink
  · exact absurd (hsame ▸ hnone) hne
  · exact hshort

/-- The content of the regular file at a location, links not followed. -/
def content? (t : FileTree) (l : Location) : Option ByteArray :=
  match t.node? l with
  | some (.file content) => some content
  | _ => none

theorem content?_eq_some_iff : t.content? l = some content ↔ t.node? l = some (.file content) := by
  unfold content?
  split
  · next hnode => simp [hnode]
  · next hnode => exact iff_of_false (by simp) (hnode content)

theorem content?_congr (h : u.node? m = t.node? m) : u.content? m = t.content? m := by
  rw [content?, content?, h]

/-- Writing a file changes no other file. -/
theorem Writable.content?_eq (h : t.Writable l) (hstored : t.Stored l content u) (hne : m ≠ l) :
    u.content? m = t.content? m := by
  rcases place_cases m l with heq | ⟨hm, _⟩ | hm
  · exact absurd heq hne
  · have hfree := h.free hm hne
    have hdir := hstored.above m hm hne
    rcases hfree with hnode | ⟨hnode, _⟩ <;> rw [content?, content?, hdir, hnode]
  · exact content?_congr (hstored.beside m hm)

/-- New directories change no file. -/
theorem Grows.content?_eq (h : t.Grows u l) (m : Location) : u.content? m = t.content? m := by
  rcases h m with hsame | ⟨_, hnone, _, hdir⟩
  · exact content?_congr hsame
  · rw [content?, content?, hdir, hnone]

/-! ## What stands in the way of several files -/

/-- Nothing stands in the way of a file at each of the places. -/
structure Unobstructed (t : FileTree) (targets : List Location) : Prop where
  writable : ∀ l ∈ targets, t.Writable l
  apart : ∀ l ∈ targets, ∀ m ∈ targets, l <+: m → l = m

theorem Unobstructed.of_subset {targets others : List Location} (h : t.Unobstructed targets)
    (hsub : others ⊆ targets) : t.Unobstructed others where
  writable l hl := h.writable l (hsub hl)
  apart l hl m hm := h.apart l (hsub hl) m (hsub hm)

/-- Writing one of the files does not get in the way of the others. -/
theorem Unobstructed.stored {targets : List Location} (h : t.Unobstructed targets)
    (hl : l ∈ targets) (hstored : t.Stored l content u) : u.Unobstructed targets := by
  refine ⟨fun m hm => ?_, h.apart⟩
  have hwritable : t.Writable m := h.writable m hm
  refine ⟨fun k hk => ?_, fun hdir => ?_, fun target hlink => ?_, fun hnone => ?_⟩
  · have hkm : k <+: m := hk.trans (List.dropLast_prefix m)
    rcases place_cases k l with rfl | ⟨hkl, hne⟩ | hkl
    · -- a file in the place of a directory would be above another target
      have heq : k = m := h.apart k hl m hm hkm
      have hshorter := (heq ▸ hk).length_le
      have hpos := List.length_pos_iff.mpr hwritable.ne_nil
      rw [List.length_dropLast] at hshorter
      omega
    · exact .inl (hstored.above k hkl hne)
    · rw [hstored.beside k hkl]
      exact hwritable.above k hk
  · rcases place_cases m l with rfl | ⟨hml, hne⟩ | hml
    · rw [hstored.file] at hdir
      cases hdir
    · exact hne (h.apart m hm l hl hml)
    · exact hwritable.noDirectory (hstored.beside m hml ▸ hdir)
  · rcases place_cases m l with rfl | ⟨hml, hne⟩ | hml
    · rw [hstored.file] at hlink
      cases hlink
    · exact hne (h.apart m hm l hl hml)
    · exact hwritable.noLink target (hstored.beside m hml ▸ hlink)
  · rcases place_cases m l with rfl | ⟨hml, hne⟩ | hml
    · rw [hstored.file] at hnone
      cases hnone
    · exact absurd (h.apart m hm l hl hml) hne
    · exact hwritable.short (hstored.beside m hml ▸ hnone)

end FileTree

namespace Writer

open FileTree

variable {t u : FileTree} {jobs : List (Location × GeneratedFile)}

/-! ## Writing in any order -/

theorem writeOne_eq (t : FileTree) (failure? : Option WriteError)
    (job : Location × GeneratedFile) :
    writeOne (t, failure?) job =
      ((t.writeWithin job.1 job.2.content.toUTF8).1,
        failure?.or ((t.writeWithin job.1 job.2.content.toUTF8).2.map fun (trouble, names) =>
          .file ⟨trouble, Location.text names⟩)) := rfl

/-- A job that fails does not keep the others from being done, so the run fails if one does. -/
theorem writeOne_eq_none_iff (t : FileTree) (failure? : Option WriteError)
    (job : Location × GeneratedFile) :
    (writeOne (t, failure?) job).2 = none ↔
      failure? = none ∧ (t.writeWithin job.1 job.2.content.toUTF8).2 = none := by
  rw [writeOne_eq]
  cases failure? <;> simp

theorem foldl_writeOne_eq_none {failure? : Option WriteError}
    (h : (jobs.foldl writeOne (t, failure?)).2 = none) : failure? = none := by
  induction jobs generalizing t failure? with
  | nil => exact h
  | cons job jobs ih =>
      have hnext : (writeOne (t, failure?) job).2 = none := ih h
      exact ((writeOne_eq_none_iff t failure? job).mp hnext).1

/-- One job, in a tree without links on the way: the file is stored, or it fails. -/
theorem writeOne_cases {job : Location × GeneratedFile} (h : t.Direct job.1) :
    (t.Writable job.1 ∧ ∃ u, writeOne (t, none) job = (u, none) ∧
        t.Stored job.1 job.2.content.toUTF8 u) ∨
      ¬t.Writable job.1 ∧ ∃ u e, writeOne (t, none) job = (u, some e) ∧
        t.Grows u job.1.dropLast := by
  rcases h.writeWithin_cases job.2.content.toUTF8 with ⟨hw, hok, hstored⟩ | ⟨hw, hfail, hgrows⟩
  · refine .inl ⟨hw, _, ?_, hstored⟩
    rw [writeOne_eq, hok]
    rfl
  · obtain ⟨mishap, hmishap⟩ := Option.ne_none_iff_exists'.mp hfail
    refine .inr ⟨hw, _, .file ⟨mishap.1, Location.text mishap.2⟩, ?_, hgrows⟩
    rw [writeOne_eq, hmishap]
    rfl

/-- When nothing stands in the way, all jobs are done. -/
theorem foldl_writeOne_of_unobstructed {targets : List Location} (h : t.Unobstructed targets)
    (hdirect : ∀ l ∈ targets, t.Direct l) (hjobs : ∀ job ∈ jobs, job.1 ∈ targets) :
    (jobs.foldl writeOne (t, none)).2 = none := by
  -- the targets stay the same ones while the tree changes, and none is blocked by another
  induction jobs generalizing t with
  | nil => rfl
  | cons job jobs ih =>
      obtain ⟨hjob, hjobs⟩ := List.forall_mem_cons.mp hjobs
      rcases writeOne_cases (hdirect _ hjob) with ⟨hw, u, hone, hstored⟩ | ⟨hw, _⟩
      · have hlater := hw.later hstored
        rw [List.foldl_cons, hone]
        exact ih (h.stored hjob hstored) (fun l hl => hlater.direct (hdirect l hl)) hjobs
      · exact absurd (h.writable _ hjob) hw

/-- When all jobs are done, each could be done at first, and its file is there in the end. -/
theorem of_foldl_writeOne (hdirect : ∀ job ∈ jobs, t.Direct job.1)
    (h : jobs.foldl writeOne (t, none) = (u, none)) :
    t.Later u ∧ ∀ job ∈ jobs, t.Writable job.1 ∧ (∃ content, u.node? job.1 = some (.file content)) ∧
      ∀ m, m <+: job.1 → m ≠ job.1 → u.node? m = some .directory := by
  induction jobs generalizing t with
  | nil =>
      cases h
      exact ⟨.refl _, by simp⟩
  | cons job jobs ih =>
      obtain ⟨hjob, hjobs⟩ := List.forall_mem_cons.mp hdirect
      rw [List.foldl_cons] at h
      rcases writeOne_cases hjob with ⟨hw, v, hone, hstored⟩ | ⟨_, v, e, hone, _⟩
      · have hlater := hw.later hstored
        rw [hone] at h
        obtain ⟨hrest, hall⟩ := ih (fun j hj => hlater.direct (hjobs j hj)) h
        -- what the first job leaves is there in the end, what the others need was there at first
        refine ⟨hlater.trans hrest, List.forall_mem_cons.mpr ⟨⟨hw, ?_, ?_⟩, ?_⟩⟩
        · exact hrest.file _ _ hstored.file
        · exact fun m hm hne => hrest.directory m (hstored.above m hm hne)
        · intro j hj
          obtain ⟨hwritable, hthere⟩ := hall j hj
          exact ⟨hlater.writable (hjobs j hj) hwritable, hthere⟩
      · rw [hone] at h
        have hfailed := foldl_writeOne_eq_none (congrArg Prod.snd h)
        cases hfailed

/-- The jobs are all done exactly when nothing stands in the way of their targets. -/
theorem foldl_writeOne_iff (hdirect : ∀ job ∈ jobs, t.Direct job.1) :
    (jobs.foldl writeOne (t, none)).2 = none ↔ t.Unobstructed (jobs.map (·.1)) := by
  constructor
  · intro hnone
    obtain ⟨-, hall⟩ := of_foldl_writeOne hdirect (Prod.ext rfl hnone)
    refine ⟨?_, ?_⟩
    · intro l hl
      obtain ⟨job, hjob, rfl⟩ := List.mem_map.mp hl
      exact (hall job hjob).1
    · intro l hl m hm hlm
      obtain ⟨job, hjob, rfl⟩ := List.mem_map.mp hl
      obtain ⟨other, hother, rfl⟩ := List.mem_map.mp hm
      obtain ⟨content, hfile⟩ := (hall job hjob).2.1
      -- above another target it would be a directory in the end, and it is a file
      refine Classical.byContradiction fun hne => ?_
      have hdir := (hall other hother).2.2 _ hlm hne
      rw [hfile] at hdir
      cases hdir
  · intro h
    refine foldl_writeOne_of_unobstructed h ?_ ?_
    · intro l hl
      obtain ⟨job, hjob, rfl⟩ := List.mem_map.mp hl
      exact hdirect job hjob
    · exact fun job hjob => List.mem_map_of_mem hjob

/-- Whether jobs fail or not, only files at their targets are new or changed. -/
theorem foldl_writeOne_content? (failure? : Option WriteError)
    (hdirect : ∀ job ∈ jobs, t.Direct job.1) {l : Location} (hl : l ∉ jobs.map (·.1)) :
    (jobs.foldl writeOne (t, failure?)).1.content? l = t.content? l := by
  induction jobs generalizing t failure? with
  | nil => rfl
  | cons job jobs ih =>
      obtain ⟨hjob, hjobs⟩ := List.forall_mem_cons.mp hdirect
      rw [List.map_cons, List.mem_cons, not_or] at hl
      obtain ⟨hne, hrest⟩ := hl
      rw [List.foldl_cons, writeOne_eq]
      rcases hjob.writeWithin_cases job.2.content.toUTF8 with ⟨hw, _, hstored⟩ | ⟨_, _, hgrows⟩
      · have hlater := hw.later hstored
        rw [ih _ (fun j hj => hlater.direct (hjobs j hj)) hrest]
        exact hw.content?_eq hstored hne
      · have hlater := hgrows.later
        rw [ih _ (fun j hj => hlater.direct (hjobs j hj)) hrest]
        exact hgrows.content?_eq l

/-- Jobs with targets of their own leave their files behind when all are done. -/
theorem contents_of_foldl_writeOne (hdirect : ∀ job ∈ jobs, t.Direct job.1)
    (hdistinct : (jobs.map (·.1)).Nodup) (h : jobs.foldl writeOne (t, none) = (u, none)) :
    ∀ job ∈ jobs, u.content? job.1 = some job.2.content.toUTF8 := by
  induction jobs generalizing t with
  | nil => simp
  | cons job jobs ih =>
      obtain ⟨hjob, hjobs⟩ := List.forall_mem_cons.mp hdirect
      rw [List.map_cons, List.nodup_cons] at hdistinct
      rw [List.foldl_cons] at h
      rcases writeOne_cases hjob with ⟨hw, v, hone, hstored⟩ | ⟨_, v, e, hone, _⟩
      · have hlater := hw.later hstored
        have hnext : ∀ j ∈ jobs, v.Direct j.1 := fun j hj => hlater.direct (hjobs j hj)
        rw [hone] at h
        have hkept := foldl_writeOne_content? none hnext hdistinct.1
        rw [h, content?_eq_some_iff.mpr hstored.file] at hkept
        exact List.forall_mem_cons.mpr ⟨hkept, ih hnext hdistinct.2 h⟩
      · rw [hone] at h
        have hfailed := foldl_writeOne_eq_none (congrArg Prod.snd h)
        cases hfailed

/-! ## The plan -/

theorem exists_of_mem_forall₂ {α β : Type} {R : α → β → Prop} {xs : List α} {ys : List β}
    (h : List.Forall₂ R xs ys) {y : β} (hy : y ∈ ys) : ∃ x ∈ xs, R x y := by
  induction h with
  | nil => cases hy
  | cons hxy _ ih =>
      rcases List.mem_cons.mp hy with rfl | hy
      · exact ⟨_, List.mem_cons_self, hxy⟩
      · obtain ⟨x, hx, hrest⟩ := ih hy
        exact ⟨x, List.mem_cons_of_mem _ hx, hrest⟩

variable {w : Writer} {s : FileSet} {root : Location} {targets : List Location}

theorem planned (h : w.plan t s = .ok targets) : ∃ root, t.resolve w.output = .place root ∧
    List.Forall₂ (fun f l => w.target t root f = .ok l) s.files targets := by
  unfold plan at h
  split at h
  · cases h
  · next root hroot => exact ⟨root, hroot, mapM_eq_ok_iff.mp h⟩

/-- What the plan finds out about the target of a file. -/
structure Aims (w : Writer) (t : FileTree) (root : Location) (f : GeneratedFile) (l : Location) :
    Prop where
  safe : OutputPath.validate f.path = .ok ()
  resolves : t.resolve (root ++ PathName.partsOf f.path) = .place l
  below : root <+: l
  vacant : w.overwrite = false → t.contains l = .ok false

theorem aims_of_target {f : GeneratedFile} {l : Location} (h : w.target t root f = .ok l) :
    w.Aims t root f l := by
  unfold target at h
  split at h
  · cases h
  · next hsafe =>
      split at h
      · cases h
      · next place hplace =>
          split at h
          · cases h
          · next hbelow =>
              rw [Bool.not_eq_true, Bool.not_eq_false', List.isPrefixOf_iff_prefix] at hbelow
              split at h
              · cases h
              · next there hthere =>
                  split at h
                  · cases h
                  · next hvacant =>
                      cases h
                      refine ⟨hsafe, hplace, hbelow, fun hkeep => ?_⟩
                      rw [hkeep, Bool.not_false, Bool.and_true, Bool.not_eq_true] at hvacant
                      rw [hthere, hvacant]

theorem aims_of_plan (h : w.plan t s = .ok targets) : ∃ root, t.resolve w.output = .place root ∧
    ∀ l ∈ targets, ∃ f ∈ s.files, w.Aims t root f l := by
  obtain ⟨root, hroot, htargets⟩ := planned h
  refine ⟨root, hroot, fun l hl => ?_⟩
  obtain ⟨f, hf, htarget⟩ := exists_of_mem_forall₂ htargets hl
  exact ⟨f, hf, aims_of_target htarget⟩

/-- No path of the set meets a link that leads back to itself. -/
def Settled (w : Writer) (t : FileTree) (s : FileSet) : Prop :=
  ∀ root, t.resolve w.output = .place root →
    ∀ f ∈ s.files, t.Settled (root ++ PathName.partsOf f.path)

theorem Settled.direct (hsettled : w.Settled t s) (h : w.plan t s = .ok targets) :
    ∀ l ∈ targets, t.Direct l := by
  obtain ⟨root, hroot, haims⟩ := aims_of_plan h
  intro l hl
  obtain ⟨f, hf, haim⟩ := haims l hl
  exact (hsettled root hroot f hf).direct haim.resolves

/-- Targets that nothing stands in the way of have no link on the way either. -/
theorem direct_of_unobstructed (h : w.plan t s = .ok targets) (hclear : t.Unobstructed targets) :
    ∀ l ∈ targets, t.Direct l := by
  obtain ⟨root, -, haims⟩ := aims_of_plan h
  intro l hl
  obtain ⟨f, -, haim⟩ := haims l hl
  exact (hclear.writable l hl).direct (resolve_noParent haim.resolves)

theorem map_fst_jobs (h : w.plan t s = .ok targets) :
    (targets.zip s.files).map (·.1) = targets := by
  obtain ⟨root, -, htargets⟩ := planned h
  exact List.map_fst_zip (Nat.le_of_eq htargets.length_eq.symm)

theorem direct_of_job (h : w.plan t s = .ok targets) (hdirect : ∀ l ∈ targets, t.Direct l) :
    ∀ job ∈ targets.zip s.files, t.Direct job.1 := by
  intro job hjob
  have hmem : job.1 ∈ (targets.zip s.files).map (·.1) := List.mem_map_of_mem hjob
  rw [map_fst_jobs h] at hmem
  exact hdirect _ hmem

/-! ## What a write leads to -/

/-- What a write may lead to: the tree as it is when the plan is refused, and else the files
written in any order, with the first failure if there is one. -/
inductive Writes (w : Writer) (t : FileTree) (s : FileSet) : FileTree × Option WriteError → Prop
  | refused {e : WriteError} (h : w.plan t s = .error e) : Writes w t s (t, some e)
  | ran {targets : List Location} {jobs : List (Location × GeneratedFile)}
      (h : w.plan t s = .ok targets) (horder : jobs.Perm (targets.zip s.files)) :
      Writes w t s (jobs.foldl writeOne (t, none))

theorem writes_write (w : Writer) (t : FileTree) (s : FileSet) :
    ∃ failure?, w.Writes t s ((w.write t s).1, failure?) ∧
      ∀ e, (w.write t s).2 = .error e ↔ failure? = some e := by
  cases hplan : w.plan t s with
  | error e =>
      refine ⟨some e, ?_, fun e' => ?_⟩
      · rw [write, hplan]
        exact .refused hplan
      · rw [write, hplan]
        simp
  | ok targets =>
      have hran := Writes.ran hplan (List.Perm.refl _)
      rw [write, hplan]
      dsimp only
      generalize (targets.zip s.files).foldl writeOne (t, none) = outcome at hran ⊢
      obtain ⟨u, failure?⟩ := outcome
      refine ⟨failure?, ?_, fun e => ?_⟩
      · cases failure? <;> exact hran
      · cases failure? <;> simp

/-- When no target has a link on its way, a write reports no failure exactly when the plan is
accepted and nothing stands in the way of a target, whatever the order of the files. -/
theorem Writes.ok_iff {outcome : FileTree × Option WriteError} (h : w.Writes t s outcome)
    (hdirect : ∀ targets, w.plan t s = .ok targets → ∀ l ∈ targets, t.Direct l) :
    outcome.2 = none ↔ ∃ targets, w.plan t s = .ok targets ∧ t.Unobstructed targets := by
  cases h with
  | refused hplan => simp [hplan]
  | @ran targets jobs hplan horder =>
      have hmem (l : Location) : l ∈ jobs.map (·.1) ↔ l ∈ targets := by
        rw [(horder.map (·.1)).mem_iff, map_fst_jobs hplan]
      have hjobs : ∀ job ∈ jobs, t.Direct job.1 := fun job hjob =>
        direct_of_job hplan (hdirect targets hplan) job (horder.mem_iff.mp hjob)
      rw [foldl_writeOne_iff hjobs]
      constructor
      · exact fun hclear => ⟨targets, hplan, hclear.of_subset fun l hl => (hmem l).mpr hl⟩
      · rintro ⟨others, hothers, hclear⟩
        rw [hplan] at hothers
        cases hothers
        exact hclear.of_subset fun l hl => (hmem l).mp hl

theorem run_of_write (h : (w.write t s).2 = .ok targets) : w.plan t s = .ok targets ∧
    (targets.zip s.files).foldl writeOne (t, none) = ((w.write t s).1, none) := by
  unfold write at h ⊢
  split at h
  · cases h
  · next others hplan =>
      rw [hplan]
      split at h
      · cases h
      · next u hrun =>
          cases h
          exact ⟨rfl, by simp only [hrun]⟩

theorem write_ok_iff (hdirect : ∀ l ∈ targets, t.Direct l) :
    (w.write t s).2 = .ok targets ↔ w.plan t s = .ok targets ∧ t.Unobstructed targets := by
  constructor
  · intro h
    obtain ⟨hplan, hrun⟩ := run_of_write h
    refine ⟨hplan, ?_⟩
    rw [← map_fst_jobs hplan]
    exact (foldl_writeOne_iff (direct_of_job hplan hdirect)).mp (congrArg Prod.snd hrun)
  · rintro ⟨hplan, hclear⟩
    rw [← map_fst_jobs hplan] at hclear
    have hnone := (foldl_writeOne_iff (direct_of_job hplan hdirect)).mpr hclear
    rw [write, hplan]
    dsimp only
    generalize (targets.zip s.files).foldl writeOne (t, none) = outcome at hnone
    obtain ⟨u, failure?⟩ := outcome
    cases hnone
    rfl

/-- Targets that are all different hold their files after a write that returns. -/
theorem contents_of_write (h : (w.write t s).2 = .ok targets)
    (hdirect : ∀ l ∈ targets, t.Direct l) (hdistinct : targets.Nodup) :
    ∀ job ∈ targets.zip s.files,
      (w.write t s).1.content? job.1 = some job.2.content.toUTF8 := by
  obtain ⟨hplan, hrun⟩ := run_of_write h
  rw [← map_fst_jobs hplan] at hdistinct
  exact contents_of_foldl_writeOne (direct_of_job hplan hdirect) hdistinct hrun

end Writer

/-- Where nothing stands in the way of the targets of a set, a write raises only what its plan
raises, and then the tree is as it was. Once the plan is accepted it does not raise, in whatever
order the files are written. -/
theorem write_atomic_of_unobstructed (w : Writer) (t : FileTree) (s : FileSet)
    (hclear : ∀ targets, w.plan t s = .ok targets → t.Unobstructed targets) :
    (∀ u e, w.Writes t s (u, some e) → w.plan t s = .error e ∧ u = t) ∧
      (∀ targets u failure?, w.plan t s = .ok targets → w.Writes t s (u, failure?) →
        failure? = none) ∧
      ∀ e, (w.write t s).2 = .error e → (w.write t s).1 = t := by
  have hnone (targets : List Location) (u : FileTree) (failure? : Option WriteError)
      (hplan : w.plan t s = .ok targets) (h : w.Writes t s (u, failure?)) : failure? = none :=
    (h.ok_iff fun targets hplan => Writer.direct_of_unobstructed hplan (hclear targets hplan)).mpr
      ⟨targets, hplan, hclear targets hplan⟩
  have hraises (u : FileTree) (e : WriteError) (h : w.Writes t s (u, some e)) :
      w.plan t s = .error e ∧ u = t := by
    generalize houtcome : (u, some e) = outcome at h
    cases h with
    | refused hplan =>
        cases houtcome
        exact ⟨hplan, rfl⟩
    | ran hplan horder =>
        have hran := Writer.Writes.ran hplan horder
        rw [← houtcome] at hran
        cases hnone _ _ _ hplan hran
  refine ⟨hraises, hnone, fun e he => ?_⟩
  obtain ⟨failure?, hwrites, hfailure⟩ := w.writes_write t s
  rw [(hfailure e).mp he] at hwrites
  exact (hraises _ e hwrites).2

/-- An output directory that holds one file. -/
def occupiedTree : FileTree :=
  ⟨[(["out"], .directory), (["out", "d"], .file "keep".toUTF8)]⟩

theorem write_atomic_of_unobstructed_example :
    (∀ u failure?, (Writer.mk ["out"] true).Writes occupiedTree ⟨[⟨"x", "1"⟩, ⟨"d", "2"⟩]⟩
        (u, failure?) → failure? = none) ∧
      ((Writer.mk ["out"] false).write occupiedTree ⟨[⟨"x", "1"⟩, ⟨"d", "2"⟩]⟩).1 = occupiedTree := by
  constructor
  · have hplan : (Writer.mk ["out"] true).plan occupiedTree ⟨[⟨"x", "1"⟩, ⟨"d", "2"⟩]⟩
        = .ok [["out", "x"], ["out", "d"]] := by rfl
    have hsettled : (Writer.mk ["out"] true).Settled occupiedTree
        ⟨[⟨"x", "1"⟩, ⟨"d", "2"⟩]⟩ := by
      intro root hroot
      have hout : occupiedTree.resolve ["out"] = .place ["out"] := by rfl
      cases hroot.symm.trans hout
      exact List.forall_mem_cons.mpr ⟨⟨["out", "x"], by rfl⟩,
        List.forall_mem_singleton.mpr ⟨["out", "d"], by rfl⟩⟩
    have hran := Writer.Writes.ran hplan (List.Perm.refl _)
    have hclear := (hran.ok_iff fun _ => hsettled.direct).mp (by decide +kernel)
    have hatomic := write_atomic_of_unobstructed (Writer.mk ["out"] true) occupiedTree
      ⟨[⟨"x", "1"⟩, ⟨"d", "2"⟩]⟩ fun targets htargets => by
        obtain ⟨others, hothers, hunobstructed⟩ := hclear
        rw [htargets] at hothers
        cases hothers
        exact hunobstructed
    exact fun u failure? h => hatomic.2.1 _ u failure? hplan h
  · have hplan : (Writer.mk ["out"] false).plan occupiedTree ⟨[⟨"x", "1"⟩, ⟨"d", "2"⟩]⟩
        = .error (.fileThere ["out", "d"]) := by rfl
    have hatomic := write_atomic_of_unobstructed (Writer.mk ["out"] false) occupiedTree
      ⟨[⟨"x", "1"⟩, ⟨"d", "2"⟩]⟩ fun targets htargets => by
        rw [hplan] at htargets
        cases htargets
    exact hatomic.2.2 (.fileThere ["out", "d"]) (by rfl)

def scatteredExample : TemplateSet :=
  .ofPairs [("x", "1"), ("d/y", "2")] .standard

/-- A file where a target needs a directory is found only when another file is written already. -/
theorem write_leaves_half_a_set :
    ∃ files, (Assembler.mk .strict true).assemble scatteredExample ⟨[]⟩ = .ok files ∧
      ((Writer.mk ["out"] false).write occupiedTree files).2
        = .error (.file ⟨.alreadyThere, "/out/d"⟩) ∧
      ((Writer.mk ["out"] false).write occupiedTree files).1.files
        = occupiedTree.files ++ [(["out", "x"], "1".toUTF8)] := by
  have hsome : ((Assembler.mk .strict true).assemble scatteredExample ⟨[]⟩).toOption
      = some ⟨[⟨"x", "1"⟩, ⟨"d/y", "2"⟩]⟩ := by decide +kernel
  exact ⟨_, eq_ok_of_toOption hsome, by rfl, by decide +kernel⟩

end Scaffold
