import Mathlib.Data.List.Perm.Subperm
import Scaffold.Proofs.Writing

namespace Scaffold

/-!
# Writing stays below the output root

The plan resolves every target before one is written. A location that
resolving leads to has no link on its way, and writing makes directories
and files but no links, so the targets are where the plan saw them until
the last file is written. A link that leads back to itself breaks this: it
stops resolving, and a link behind it is followed only by the write.
-/

namespace FileTree

variable {t : FileTree} {l : Location}

/-- Whatever is in the tree is in a directory. -/
def Rooted (t : FileTree) : Prop :=
  ∀ l, t.node? l ≠ none → t.Folder l.dropLast

theorem Rooted.exists_walk (h : t.Rooted) (hdirect : t.Direct l) (hthere : t.node? l ≠ none) :
    ∃ place node, t.walk l = .there place node := by
  have hfolder := h l hthere
  rcases List.eq_nil_or_concat l with rfl | ⟨above, name, rfl⟩
  · exact ⟨[], .directory, t.folder_nil.walk hdirect.noParent⟩
  · rw [List.concat_eq_append] at hdirect hthere hfolder ⊢
    rw [List.dropLast_concat] at hfolder
    cases hnode : t.node? (above ++ [name]) with
    | none => exact absurd hnode hthere
    | some node =>
        cases node with
        | directory =>
            exact ⟨_, _, (folder_concat_iff.mpr ⟨hfolder, hnode⟩).walk hdirect.noParent⟩
        | file content =>
            have hwalk := hfolder.walk_file hdirect.noParent hnode
            rw [List.isEmpty_nil, if_pos rfl] at hwalk
            exact ⟨_, _, hwalk⟩
        | link target => exact absurd hnode (hdirect.noLink _ (List.prefix_refl _) target)

theorem Rooted.node?_eq_none (h : t.Rooted) (hdirect : t.Direct l)
    (hmissing : t.contains l = .ok false) : t.node? l = none := by
  refine Classical.byContradiction fun hthere => ?_
  obtain ⟨place, node, hwalk⟩ := h.exists_walk hdirect hthere
  rw [contains, hwalk] at hmissing
  cases hmissing

end FileTree

namespace Writer

open FileTree

variable {w : Writer} {t u : FileTree} {s : FileSet} {targets : List Location}

/-! ## The trees that a write passes through -/

/-- The trees that a write passes through: the tree as it is, and once the plan is accepted those
that some of the files are written into, in any order and whether the writes succeed or not. -/
inductive Passes (w : Writer) (t : FileTree) (s : FileSet) : FileTree → Prop
  | before : Passes w t s t
  | during {targets : List Location} {jobs : List (Location × GeneratedFile)}
      (h : w.plan t s = .ok targets) (hjobs : List.Subperm jobs (targets.zip s.files)) :
      Passes w t s (jobs.foldl writeOne (t, none)).1

theorem Writes.passes {outcome : FileTree × Option WriteError} (h : w.Writes t s outcome) :
    w.Passes t s outcome.1 := by
  cases h with
  | refused => exact .before
  | ran hplan horder => exact .during hplan horder.subperm

theorem passes_write (w : Writer) (t : FileTree) (s : FileSet) : w.Passes t s (w.write t s).1 := by
  obtain ⟨failure?, hwrites, -⟩ := w.writes_write t s
  exact hwrites.passes

/-- At no moment is a file new or changed that is not a planned target. -/
theorem Passes.content?_eq (h : w.Passes t s u) (hsettled : w.Settled t s) {l : Location}
    (hl : ∀ targets, w.plan t s = .ok targets → l ∉ targets) : u.content? l = t.content? l := by
  cases h with
  | before => rfl
  | @during targets jobs hplan hjobs =>
      refine foldl_writeOne_content? none ?_ ?_
      · intro job hjob
        exact direct_of_job hplan (hsettled.direct hplan) job (hjobs.subset hjob)
      · intro hmem
        obtain ⟨job, hjob, rfl⟩ := List.mem_map.mp hmem
        refine hl targets hplan ?_
        rw [← map_fst_jobs hplan]
        exact List.mem_map_of_mem (hjobs.subset hjob)

/-- Where a file is new or changed, there is a target below the output root. -/
theorem Passes.target_of_ne (h : w.Passes t s u) (hsettled : w.Settled t s) {l : Location}
    (hne : u.content? l ≠ t.content? l) :
    ∃ root targets, t.resolve w.output = .place root ∧ w.plan t s = .ok targets ∧
      l ∈ targets ∧ root <+: l := by
  have hplanned : ∃ targets, w.plan t s = .ok targets ∧ l ∈ targets := by
    refine Classical.byContradiction fun hnone => hne ?_
    exact h.content?_eq hsettled fun targets hplan hl => hnone ⟨targets, hplan, hl⟩
  obtain ⟨targets, hplan, hl⟩ := hplanned
  obtain ⟨root, hroot, haims⟩ := aims_of_plan hplan
  obtain ⟨f, -, haim⟩ := haims l hl
  exact ⟨root, targets, hroot, hplan, hl, haim.below⟩

/-! ## What a write that returns leaves behind -/

theorem forall₂_content {jobs : List (Location × GeneratedFile)} {files : List GeneratedFile}
    (hlength : targets.length = files.length) (hjobs : jobs.Perm (targets.zip files))
    (hcontent : ∀ job ∈ jobs, u.content? job.1 = some job.2.content.toUTF8) :
    List.Forall₂ (fun l f => u.content? l = some f.content.toUTF8) targets files := by
  refine List.forall₂_iff_zip.mpr ⟨hlength, fun {l f} hmem => ?_⟩
  exact hcontent (l, f) (hjobs.mem_iff.mpr hmem)

/-- Targets that are all different hold their files, in whatever order these were written. -/
theorem Writes.contents (h : w.Writes t s (u, none)) (hsettled : w.Settled t s)
    (hplan : w.plan t s = .ok targets) (hdistinct : targets.Nodup) :
    List.Forall₂ (fun l f => u.content? l = some f.content.toUTF8) targets s.files := by
  generalize houtcome : (u, none) = outcome at h
  cases h with
  | refused => cases houtcome
  | @ran others jobs hothers horder =>
      rw [hplan] at hothers
      cases hothers
      obtain ⟨root, -, haims⟩ := planned hplan
      have hfst := map_fst_jobs hplan
      refine forall₂_content haims.length_eq.symm horder ?_
      refine contents_of_foldl_writeOne ?_ ?_ houtcome.symm
      · intro job hjob
        exact direct_of_job hplan (hsettled.direct hplan) job (horder.mem_iff.mp hjob)
      · rw [(horder.map (·.1)).nodup_iff, hfst]
        exact hdistinct

/-- Unless files may be overwritten, nothing was at the targets. -/
theorem vacant_of_plan (hplan : w.plan t s = .ok targets) (hkeep : w.overwrite = false) :
    ∀ l ∈ targets, t.contains l = .ok false := by
  obtain ⟨root, -, haims⟩ := aims_of_plan hplan
  intro l hl
  obtain ⟨f, -, haim⟩ := haims l hl
  exact haim.vacant hkeep

end Writer

/-! ## Only targets below the root -/

/-- When no path of the set meets a link that leads back to itself, no file is new or changed at
any moment of a write, whether it succeeds or not, but planned targets below the output root. When
no write fails and the targets are all different they hold their files, and unless files may be
overwritten nothing was there before. -/
theorem write_changes_only_targets (w : Writer) (t : FileTree) (s : FileSet)
    (hsettled : w.Settled t s) :
    (∀ u, w.Passes t s u → ∀ l, u.content? l ≠ t.content? l →
      ∃ root targets, t.resolve w.output = .place root ∧ w.plan t s = .ok targets ∧
        l ∈ targets ∧ root <+: l) ∧
    (∀ u targets, w.Writes t s (u, none) → w.plan t s = .ok targets →
      (targets.Nodup →
        List.Forall₂ (fun l f => u.content? l = some f.content.toUTF8) targets s.files) ∧
      (w.overwrite = false → ∀ l ∈ targets,
        t.contains l = .ok false ∧ (t.Rooted → t.node? l = none))) ∧
    w.Passes t s (w.write t s).1 ∧
    ∀ targets, (w.write t s).2 = .ok targets →
      w.plan t s = .ok targets ∧ w.Writes t s ((w.write t s).1, none) := by
  refine ⟨fun u hpasses l hne => hpasses.target_of_ne hsettled hne, ?_, w.passes_write t s, ?_⟩
  · intro u targets hwrites hplan
    refine ⟨hwrites.contents hsettled hplan, fun hkeep l hl => ?_⟩
    have hmissing := Writer.vacant_of_plan hplan hkeep l hl
    exact ⟨hmissing, fun hrooted => hrooted.node?_eq_none (hsettled.direct hplan l hl) hmissing⟩
  · intro targets hok
    obtain ⟨hplan, hrun⟩ := Writer.run_of_write hok
    have hran := Writer.Writes.ran hplan (List.Perm.refl _)
    rw [hrun] at hran
    exact ⟨hplan, hran⟩

/-- An output directory with a link to another directory in it, and a link that leads out of it. -/
def linkedTree : FileTree :=
  ⟨[(["out"], .directory), (["out", "real"], .directory),
    (["out", "alias"], .link (.ofNames ["real"])),
    (["out", "away"], .link (.ofNames ["..", "away"]))]⟩

theorem write_changes_only_targets_example :
    (Writer.mk ["out"] false).Settled linkedTree ⟨[⟨"alias/x", "1"⟩]⟩ ∧
      ((Writer.mk ["out"] false).write linkedTree ⟨[⟨"alias/x", "1"⟩]⟩).2
        = .ok [["out", "real", "x"]] ∧
      ∀ l, ((Writer.mk ["out"] false).write linkedTree ⟨[⟨"alias/x", "1"⟩]⟩).1.content? l
        ≠ linkedTree.content? l → l = ["out", "real", "x"] := by
  have hplan : (Writer.mk ["out"] false).plan linkedTree ⟨[⟨"alias/x", "1"⟩]⟩
      = .ok [["out", "real", "x"]] := by decide +kernel
  have hsettled : (Writer.mk ["out"] false).Settled linkedTree ⟨[⟨"alias/x", "1"⟩]⟩ := by
    intro root hroot
    have hout : linkedTree.resolve ["out"] = .place ["out"] := by decide +kernel
    cases hroot.symm.trans hout
    exact List.forall_mem_singleton.mpr ⟨["out", "real", "x"], by decide +kernel⟩
  obtain ⟨hframe, -, hpasses, -⟩ :=
    write_changes_only_targets (Writer.mk ["out"] false) linkedTree ⟨[⟨"alias/x", "1"⟩]⟩ hsettled
  refine ⟨hsettled, by decide +kernel, fun l hne => ?_⟩
  obtain ⟨root, targets, -, htargets, hl, -⟩ := hframe _ hpasses l hne
  rw [hplan] at htargets
  cases htargets
  exact List.mem_singleton.mp hl

/-- An output directory with a link to itself and a link that leads out of the directory, which a
third link names behind the first. -/
def loopedTree : FileTree :=
  ⟨[(["out"], .directory), (["out", "loop"], .link (.ofNames ["loop"])),
    (["out", "leak"], .link (.ofNames ["..", "leak"])),
    (["out", "way"], .link (.ofNames ["loop", "..", "leak"]))]⟩

/-- Behind a link to itself the way out is not resolved: the plan takes the target to be in the
output directory, and the write follows it to a new file outside. -/
theorem write_leaves_output_root :
    loopedTree.resolve ["out"] = .place ["out"] ∧
      ((Writer.mk ["out"] false).write loopedTree ⟨[⟨"way", "1"⟩]⟩).2 = .ok [["out", "leak"]] ∧
      ((Writer.mk ["out"] false).write loopedTree ⟨[⟨"way", "1"⟩]⟩).1.content? ["leak"]
        = some "1".toUTF8 ∧
      loopedTree.content? ["leak"] = none ∧ ¬["out"] <+: ["leak"] := by
  refine ⟨by decide +kernel, by decide +kernel, by decide +kernel, by decide +kernel, by decide⟩

end Scaffold
