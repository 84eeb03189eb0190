import Scaffold.Library

namespace Scaffold

/-!
# Reading files

Names lead to a file through the directories on the way. A file that holds
the bytes of a text without carriage returns is read as that text, and so
a library with a manifest is what the manifest says.
-/

namespace PathName

theorem namesFrom_join_ofNames (p : PathName) (names cwd : List String) :
    (p.join (.ofNames names)).namesFrom cwd = p.namesFrom cwd ++ names := by
  have hjoin : p.join (.ofNames names) = ⟨p.anchor, p.parts ++ names⟩ := rfl
  rw [hjoin, namesFrom, namesFrom]
  split
  · next habsolute => rw [if_pos (show p.isAbsolute from habsolute)]
  · next hrelative => rw [if_neg (show ¬p.isAbsolute from hrelative), List.append_assoc]

end PathName

namespace FileTree

theorem walk_of_read {t : FileTree} {names : List String} {content : ByteArray}
    (h : t.read names = .ok content) : ∃ place, t.walk names = .there place (.file content) := by
  unfold read at h
  split at h
  · next place _ hwalk =>
      cases h
      exact ⟨place, hwalk⟩
  all_goals cases h

theorem contains_of_there {t : FileTree} {names : List String} {place : Location}
    {node : TreeNode} (h : t.walk names = .there place node) : t.contains names = .ok true := by
  rw [contains, h]

theorem findsDirectory_of_isDirectory {t : FileTree} {names : List String}
    (h : t.isDirectory names = true) : t.findsDirectory names = .ok true := by
  have hdirectory := h
  unfold isDirectory at h
  split at h
  · next place hwalk => rw [findsDirectory, contains_of_there hwalk, Except.map, hdirectory]
  · cases h

theorem findsFile_of_walk {t : FileTree} {names : List String} {place : Location}
    {content : ByteArray} (h : t.walk names = .there place (.file content)) :
    t.findsFile names = .ok true := by
  rw [findsFile, contains_of_there h, Except.map, isFile, h]

/-- Where every name on the way is that of a directory, the names lead to the file at their end. -/
theorem walkIn_of_nodes {t : FileTree} (enter : Location → List String → Arrival)
    {here names : List String} {content : ByteArray} (hup : ".." ∉ names)
    (hdirs : ∀ k, 0 < k → k < names.length → t.node? (here ++ names.take k) = some .directory)
    (hne : names ≠ []) (hfile : t.node? (here ++ names) = some (.file content)) :
    t.walkIn enter here names = .there (here ++ names) (.file content) := by
  induction names generalizing here with
  | nil => exact absurd rfl hne
  | cons name rest ih =>
      obtain ⟨hname, hrest⟩ := not_or.mp fun h => hup (List.mem_cons.mpr h)
      rw [walkIn, if_neg (Ne.symm hname)]
      cases rest with
      | nil => simp [hfile]
      | cons second rest =>
          have hnext : t.node? (here ++ [name]) = some .directory :=
            hdirs 1 Nat.one_pos (by simp)
          have hassoc : here ++ name :: second :: rest = here ++ [name] ++ second :: rest := by simp
          simp only [hnext]
          rw [hassoc] at hfile ⊢
          refine ih hrest (fun k hpos hk => ?_) (List.cons_ne_nil _ _) hfile
          simpa using hdirs (k + 1) (Nat.succ_pos k) (Nat.succ_lt_succ hk)

end FileTree

namespace TextFile

theorem fromUTF8?_toUTF8 (s : String) : String.fromUTF8? s.toUTF8 = some s := by
  rw [String.fromUTF8?, dif_pos (show s.toUTF8.IsValidUTF8 from s.isValidUTF8)]
  rfl

theorem unifyLineEnds_eq_self {s : List Char} (h : '\r' ∉ s) : unifyLineEnds s = s := by
  induction s with
  | nil => rfl
  | cons c cs ih =>
      obtain ⟨hc, hcs⟩ := not_or.mp fun hmem => h (List.mem_cons.mpr hmem)
      rw [unifyLineEnds, ih hcs]
      · exact fun _ hcr _ => hc hcr.symm
      · exact fun hcr => hc hcr.symm

theorem read_toUTF8 {t : FileTree} {names : List String} {text : String}
    (hread : t.read names = .ok text.toUTF8) (hplain : '\r' ∉ text.toList) (shown : String) :
    read t names shown = .ok text := by
  have hdecode : decode? text.toUTF8 = some text := by
    rw [decode?, fromUTF8?_toUTF8, Option.map_some, unifyLineEnds_eq_self hplain,
      String.ofList_toList]
  rw [read, hread]
  simp only [hdecode]

end TextFile

/-- Where there is a manifest, a library has the entries that it lists. -/
theorem Library.load_manifest {lib : Library} {t : FileTree} {cwd : Location} {text : String}
    {d : Datum} (hdirectory : t.isDirectory (lib.names cwd) = true)
    (hread : t.read (lib.names cwd ++ [manifestName]) = .ok text.toUTF8)
    (hplain : '\r' ∉ text.toList) (hparse : Yaml.parse? text = some d) :
    lib.load t cwd = lib.listedEntries t cwd d := by
  obtain ⟨place, hwalk⟩ := FileTree.walk_of_read hread
  rw [load, FileTree.findsDirectory_of_isDirectory hdirectory]
  simp only [manifestPath, PathName.namesFrom_join_ofNames]
  rw [← names, FileTree.contains_of_there hwalk]
  simp only [TextFile.read_toUTF8 hread hplain, Yaml.parse?_eq_some_iff.mp hparse]

end Scaffold
