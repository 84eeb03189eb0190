import Scaffold.Proofs.Layout
import Scaffold.Proofs.Writing

namespace Scaffold

/-!
# Writing into an empty directory

In an output directory that is empty or not there yet, the targets of a
file set are the components of its paths below it. A set that can be laid
out is written as a whole: nothing stands in the way of a target, and each
file is in its place in the end.
-/

namespace FileTree

variable {t : FileTree} {root m : Location} {names : List String}

/-- An empty directory, or one that can be made. -/
structure Fresh (t : FileTree) (root : Location) : Prop where
  direct : t.Direct root
  free : t.Free root
  empty : ∀ m, root <+: m → m ≠ root → t.node? m = none

/-- Names that can be given to files and directories. -/
def Usable (names : List String) : Prop :=
  ∀ name ∈ names, name ≠ ".." ∧ name.utf8ByteSize ≤ longestName

theorem Fresh.node_cases (h : t.Fresh root) (hm : m <+: root ++ names) :
    m <+: root ∨ (∃ rest name, m = root ++ (rest ++ [name]) ∧ rest ++ [name] <+: names) ∧
      t.node? m = none := by
  rcases List.prefix_or_prefix_of_prefix hm (List.prefix_append root names) with hup | hdown
  · exact .inl hup
  · obtain ⟨rest, rfl⟩ := hdown
    rcases List.eq_nil_or_concat rest with rfl | ⟨rest, name, rfl⟩
    · exact .inl (by simp)
    · rw [List.concat_eq_append] at hm ⊢
      have hnames : rest ++ [name] <+: names := (List.prefix_append_right_inj root).mp hm
      refine .inr ⟨⟨rest, name, rfl, hnames⟩, h.empty _ (List.prefix_append _ _) ?_⟩
      exact fun heq => by simp at heq

theorem Fresh.direct_below (h : t.Fresh root) (hnames : Usable names) : t.Direct (root ++ names) := by
  refine ⟨fun hmem => ?_, fun m hm target hlink => ?_⟩
  · rcases List.mem_append.mp hmem with hmem | hmem
    · exact h.direct.noParent hmem
    · exact (hnames _ hmem).1 rfl
  · rcases h.node_cases hm with hup | ⟨_, hnone⟩
    · exact h.direct.noLink m hup target hlink
    · rw [hnone] at hlink
      cases hlink

theorem Fresh.free_below (h : t.Fresh root) (hnames : Usable names) : t.Free (root ++ names) := by
  intro m hm
  rcases h.node_cases hm with hup | ⟨⟨rest, name, rfl, hwith⟩, hnone⟩
  · exact h.free m hup
  · have hname : name ∈ names := hwith.subset (by simp)
    have hshort : Short (root ++ rest ++ [name]) := short_concat_iff.mpr (hnames name hname).2
    rw [List.append_assoc] at hshort
    exact .inr ⟨hnone, hshort⟩

theorem Fresh.node?_below (h : t.Fresh root) (hne : names ≠ []) : t.node? (root ++ names) = none :=
  h.empty _ (List.prefix_append _ _) fun heq => hne (List.append_right_eq_self.mp heq)

theorem Fresh.writable_below (h : t.Fresh root) (hnames : Usable names) (hne : names ≠ []) :
    t.Writable (root ++ names) := by
  have hfree := h.free_below hnames
  have hnone := h.node?_below hne
  refine ⟨hfree.of_prefix (List.dropLast_prefix _), by simp [hnone], by simp [hnone], fun _ => ?_⟩
  rcases hfree _ (List.prefix_refl _) with hdir | ⟨_, hshort⟩
  · rw [hnone] at hdir
    cases hdir
  · exact hshort

end FileTree

open FileTree OutputPath

namespace Writer

variable {t : FileTree} {root : Location} {w : Writer}

theorem target_of_fresh (h : t.Fresh root) {f : GeneratedFile} (hsafe : Safe f.path)
    (husable : Usable (components f.path)) (hne : components f.path ≠ []) :
    w.target t root f = .ok (root ++ components f.path) := by
  have hdirect := h.direct_below husable
  have hmissing := (h.free_below husable).contains_eq_false hdirect.noParent (h.node?_below hne)
  have hbelow : root.isPrefixOf (root ++ components f.path) = true :=
    List.isPrefixOf_iff_prefix.mpr (List.prefix_append _ _)
  rw [target, validate_eq_ok_iff.mpr hsafe, hsafe.partsOf, hdirect.resolve]
  simp [hbelow, hmissing]

theorem plan_of_fresh (h : t.Fresh root) (hroot : t.resolve w.output = .place root) {s : FileSet}
    (hsafe : ∀ path ∈ s.paths, Safe path) (husable : ∀ path ∈ s.paths, Usable (components path))
    (hlays : s.LaysOut) :
    w.plan t s = .ok (s.files.map fun f => root ++ components f.path) := by
  have htargets : s.files.mapM (w.target t root)
      = s.files.mapM fun f => .ok (root ++ components f.path) := by
    refine Assembler.mapM_congr_mem fun f hf => ?_
    have hpath : f.path ∈ s.paths := List.mem_map_of_mem hf
    exact target_of_fresh h (hsafe _ hpath) (husable _ hpath) (hlays.nonempty _ hpath)
  rw [plan, hroot]
  dsimp only
  rw [htargets]
  exact List.mapM_pure

end Writer

/-- Places below a fresh directory are free when no one is above another. -/
theorem FileTree.Fresh.unobstructed {t : FileTree} {root : Location} (h : t.Fresh root)
    {places : List (List String)} (husable : ∀ names ∈ places, Usable names ∧ names ≠ [])
    (hapart : ∀ names ∈ places, ∀ others ∈ places, names <+: others → names = others) :
    t.Unobstructed (places.map (root ++ ·)) := by
  refine ⟨?_, ?_⟩
  · intro l hl
    obtain ⟨names, hnames, rfl⟩ := List.mem_map.mp hl
    exact h.writable_below (husable names hnames).1 (husable names hnames).2
  · intro l hl m hm hlm
    obtain ⟨names, hnames, rfl⟩ := List.mem_map.mp hl
    obtain ⟨others, hothers, rfl⟩ := List.mem_map.mp hm
    have hwith : names <+: others := (List.prefix_append_right_inj root).mp hlm
    exact congrArg (root ++ ·) (hapart names hnames others hothers hwith)

/-- An assembled set that can be laid out is written as a whole into a fresh directory, unless a
name is too long: each of its files is there in the end. -/
theorem write_of_laysOut {a : Assembler} {set : TemplateSet} {c : Context} {s : FileSet}
    (hassemble : a.assemble set c = .ok s) (hlays : s.LaysOut)
    (hshort : ∀ path ∈ s.paths, ∀ name ∈ names path, name.utf8ByteSize ≤ longestName)
    {w : Writer} {t : FileTree} {root : Location} (hfresh : t.Fresh root)
    (hroot : t.resolve w.output = .place root) :
    (w.write t s).2 = .ok (s.files.map fun f => root ++ components f.path) ∧
      ∀ f ∈ s.files,
        (w.write t s).1.node? (root ++ components f.path) = some (.file f.content.toUTF8) := by
  have hsafe : ∀ path ∈ s.paths, Safe path := (Assembler.paths_of_assemble hassemble).1
  have husable : ∀ path ∈ s.paths, Usable (components path) := by
    intro path hpath name hname
    have hmem : name ∈ names path := List.mem_of_mem_filter hname
    exact ⟨fun heq => (hsafe path hpath).noParent (heq ▸ hmem), hshort path hpath name hmem⟩
  have hplan := w.plan_of_fresh hfresh hroot hsafe husable hlays
  have htargets : s.files.map (fun f => root ++ components f.path)
      = (s.paths.map components).map (root ++ ·) := by
    simp [FileSet.paths]
  have hclear : t.Unobstructed ((s.paths.map components).map (root ++ ·)) := by
    refine hfresh.unobstructed ?_ ?_
    · intro names hnames
      obtain ⟨path, hpath, rfl⟩ := List.mem_map.mp hnames
      exact ⟨husable path hpath, hlays.nonempty path hpath⟩
    · intro names hnames others hothers
      obtain ⟨path, hpath, rfl⟩ := List.mem_map.mp hnames
      obtain ⟨other, hother, rfl⟩ := List.mem_map.mp hothers
      exact hlays.apart path hpath other hother
  have hdistinct : ((s.paths.map components).map (root ++ ·)).Nodup := by
    rw [List.Nodup, List.pairwise_map]
    exact hlays.distinct.imp fun hne heq => hne (List.append_cancel_left heq)
  rw [← htargets] at hclear hdistinct
  have hdirect := Writer.direct_of_unobstructed hplan hclear
  have hok := (Writer.write_ok_iff hdirect).mpr ⟨hplan, hclear⟩
  refine ⟨hok, fun f hf => ?_⟩
  have hjob : (root ++ components f.path, f)
      ∈ (s.files.map fun f => root ++ components f.path).zip (s.files.map id) := by
    rw [List.zip_map']
    exact List.mem_map_of_mem hf
  rw [List.map_id] at hjob
  exact content?_eq_some_iff.mp (Writer.contents_of_write hok hdirect hdistinct _ hjob)

end Scaffold
