import Scaffold.Proofs.SafePaths

namespace Scaffold

/-!
# File sets as trees of files

The files of a set can be laid out as one tree when every path has a name,
no two lead to one place and none leads through another. Paths are compared
as texts when they are collected, so this is not so of every set that was
assembled: single dots give one place several paths, and a path may go on
where another ends.
-/

namespace Text

/-- The pieces before a separator and those after it. -/
theorem splitOn_append_cons (sep : Char) (s rest : List Char) :
    splitOn sep (s ++ sep :: rest) = splitOn sep s ++ splitOn sep rest := by
  induction s with
  | nil => simp [splitOn]
  | cons c cs ih =>
      rw [List.cons_append]
      by_cases hc : c = sep
      · rw [splitOn, if_pos hc, splitOn, if_pos hc, ih]
        rfl
      · rw [splitOn, if_neg hc, splitOn, if_neg hc, ih]
        cases hs : splitOn sep cs with
        | nil => exact absurd hs (splitOn_ne_nil sep cs)
        | cons piece pieces => rfl

theorem splitOn_injective {sep : Char} {s s' : List Char}
    (h : splitOn sep s = splitOn sep s') : s = s' := by
  rw [← joinWith_splitOn sep s, h, joinWith_splitOn]

/-- The pieces of one text start with all those of another, and have more, exactly when the one goes
on with a separator where the other ends. -/
theorem prefix_splitOn_iff {sep : Char} {s s' : List Char} :
    (splitOn sep s <+: splitOn sep s' ∧ s ≠ s') ↔ s ++ [sep] <+: s' := by
  constructor
  · rintro ⟨⟨pieces, hpieces⟩, hne⟩
    have hmore : pieces ≠ [] := by
      rintro rfl
      rw [List.append_nil] at hpieces
      exact hne (splitOn_injective hpieces)
    have hmark : ∀ piece ∈ pieces, sep ∉ piece := fun piece hpiece =>
      not_mem_of_mem_splitOn (hpieces ▸ List.mem_append_right _ hpiece)
    have hsplit : splitOn sep (s ++ sep :: joinWith [sep] pieces) = splitOn sep s' := by
      rw [splitOn_append_cons, splitOn_joinWith hmore hmark, hpieces]
    refine ⟨joinWith [sep] pieces, ?_⟩
    rw [List.append_assoc, List.singleton_append, splitOn_injective hsplit]
  · rintro ⟨rest, rfl⟩
    rw [List.append_assoc, List.singleton_append, splitOn_append_cons]
    exact ⟨List.prefix_append _ _, fun heq => by simp at heq⟩

end Text

namespace OutputPath

theorem names_ne_nil (path : String) : names path ≠ [] := by
  intro h
  exact Text.splitOn_ne_nil '/' path.toList (List.map_eq_nil_iff.mp h)

theorem map_toList_names (path : String) :
    (names path).map String.toList = segments path.toList := by
  simp [names, Function.comp_def]

theorem names_injective {path other : String} (h : names path = names other) : path = other := by
  have hsegments : segments path.toList = segments other.toList := by
    rw [← map_toList_names, h, map_toList_names]
  exact String.toList_inj.mp (Text.splitOn_injective hsegments)

/-- A path leads through another one when it goes on after a slash. -/
theorem names_prefix_iff {path other : String} :
    (names path <+: names other ∧ names path ≠ names other) ↔
      (path ++ "/").toList <+: other.toList := by
  have hslash : (path ++ "/").toList = path.toList ++ ['/'] := String.toList_append
  rw [hslash, ← Text.prefix_splitOn_iff]
  constructor
  · rintro ⟨hwith, hne⟩
    refine ⟨?_, fun heq => hne (congrArg names (String.toList_inj.mp heq))⟩
    have hmap := hwith.map String.toList
    rwa [map_toList_names, map_toList_names] at hmap
  · rintro ⟨hwith, hne⟩
    exact ⟨hwith.map String.ofList, fun heq => hne (congrArg String.toList (names_injective heq))⟩

/-- A path without single dots leads through all its names. -/
theorem components_of_no_dot {path : String} (h : "." ∉ names path) :
    components path = names path := by
  rw [components, List.filter_eq_self]
  intro name hname
  simpa using fun heq : name = "." => h (heq ▸ hname)

end OutputPath

open OutputPath

/-- All files have a place in one tree, each its own, and none is where another needs a
directory. -/
structure FileSet.LaysOut (s : FileSet) : Prop where
  nonempty : ∀ path ∈ s.paths, components path ≠ []
  distinct : (s.paths.map components).Nodup
  apart : ∀ path ∈ s.paths, ∀ other ∈ s.paths, components path <+: components other →
    components path = components other

/-- Without single dots in the paths a set that was assembled can be laid out unless a path goes
on where another one ends. -/
theorem assembled_files_lay_out_iff {a : Assembler} {set : TemplateSet} {c : Context}
    {files : FileSet} (h : a.assemble set c = .ok files)
    (hdots : ∀ path ∈ files.paths, "." ∉ names path) :
    files.LaysOut ↔
      ∀ path ∈ files.paths, ∀ other ∈ files.paths, ¬(path ++ "/").toList <+: other.toList := by
  obtain ⟨-, hdistinct⟩ := Assembler.paths_of_assemble h
  have hnames : ∀ path ∈ files.paths, components path = names path := fun path hpath =>
    components_of_no_dot (hdots path hpath)
  have hwithin : ∀ path ∈ files.paths, ∀ other ∈ files.paths,
      (components path <+: components other ∧ components path ≠ components other) ↔
        (path ++ "/").toList <+: other.toList := by
    intro path hpath other hother
    rw [hnames path hpath, hnames other hother]
    exact names_prefix_iff
  constructor
  · intro hlays path hpath other hother hslash
    obtain ⟨hwith, hne⟩ := (hwithin path hpath other hother).mpr hslash
    exact hne (hlays.apart path hpath other hother hwith)
  · intro hnone
    refine ⟨?_, ?_, ?_⟩
    · intro path hpath
      rw [hnames path hpath]
      exact names_ne_nil path
    · rw [List.map_congr_left hnames, List.Nodup, List.pairwise_map]
      exact hdistinct.imp fun hne heq => hne (names_injective heq)
    · intro path hpath other hother hwith
      refine Classical.byContradiction fun hne => ?_
      exact hnone path hpath other hother ((hwithin path hpath other hother).mp ⟨hwith, hne⟩)

def nestedExample : TemplateSet :=
  .ofPairs [("src/\x7b\x7bname\x7d\x7d.ts", "1"), ("src/\x7b\x7bname\x7d\x7d/index.ts", "2")] .standard

theorem assembled_files_lay_out_example :
    ∃ files, (Assembler.mk .strict true).assemble nestedExample ⟨[("name", .str "a")]⟩ = .ok files ∧
      files.LaysOut := by
  have hsome : ((Assembler.mk .strict true).assemble nestedExample ⟨[("name", .str "a")]⟩).toOption
      = some ⟨[⟨"src/a.ts", "1"⟩, ⟨"src/a/index.ts", "2"⟩]⟩ := by decide +kernel
  have hrun := eq_ok_of_toOption hsome
  exact ⟨_, hrun, (assembled_files_lay_out_iff hrun (by decide +kernel)).mpr (by decide +kernel)⟩

/-- Paths that are told apart as texts: one without a name, two for one place, and one below
another. -/
def crowdedExample : TemplateSet :=
  .ofPairs [(".", "0"), ("a", "1"), ("./a", "2"), ("a/b", "3")] .standard

theorem assembled_files_need_not_lay_out :
    ∃ files, (Assembler.mk .strict true).assemble crowdedExample ⟨[]⟩ = .ok files ∧
      (∃ path ∈ files.paths, components path = []) ∧
      ¬(files.paths.map components).Nodup ∧
      ∃ path ∈ files.paths, ∃ other ∈ files.paths,
        components path <+: components other ∧ components path ≠ components other := by
  have hsome : ((Assembler.mk .strict true).assemble crowdedExample ⟨[]⟩).toOption
      = some ⟨[⟨".", "0"⟩, ⟨"a", "1"⟩, ⟨"./a", "2"⟩, ⟨"a/b", "3"⟩]⟩ := by decide +kernel
  refine ⟨_, eq_ok_of_toOption hsome, ?_, ?_, ?_⟩
  · exact ⟨".", by decide, by decide +kernel⟩
  · decide +kernel
  · exact ⟨"a", by decide, "a/b", by decide, by decide +kernel⟩

end Scaffold
