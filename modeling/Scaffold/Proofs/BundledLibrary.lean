import Scaffold.Proofs.BundledTemplates
import Scaffold.Proofs.ReadingFiles
import Scaffold.Proofs.Selection
import Scaffold.Workshop

namespace Scaffold

/-!
# The bundled library

Where the files of the bundled library are in place, loading it gives the
bundled template set. So a request for a project, whatever its decisions
are, leads to files: the same ones in both modes.
-/

namespace Bundle

/-! ## The files in place -/

/-- The files of the bundled library are in a directory. -/
structure Mounted (t : FileTree) (names : List String) : Prop where
  isDirectory : t.isDirectory names = true
  read : ∀ f ∈ files, t.read (names ++ PathName.partsOf f.1) = .ok f.2.toUTF8

def directories : List Location :=
  [ ["amplify"], ["amplify", "auth"], ["amplify", "data"], ["amplify", "storage"], ["src"]
  , ["src", "components"], ["src", "lib"] ]

/-- A tree with the bundled library and nothing else. -/
def alone : FileTree where
  entries := (directories.map fun l => (l, .directory)) ++
    files.map fun f => (PathName.partsOf f.1, .file f.2.toUTF8)

/-- Are the directories of a file there? -/
def isHoused (names : List String) : Bool :=
  names != [] && !names.contains ".." && !directories.contains names
    && (List.range names.length).all fun k => k == 0 || directories.contains (names.take k)

/-- The names of a file whose directories are there. -/
structure Housed (names : List String) : Prop where
  ne_nil : names ≠ []
  noUp : ".." ∉ names
  notMem : names ∉ directories
  housed : ∀ k, 0 < k → k < names.length → names.take k ∈ directories

theorem housed_of_isHoused {names : List String} (h : isHoused names = true) : Housed names := by
  simp only [isHoused, Bool.and_eq_true, bne_iff_ne, Bool.not_eq_true', List.all_eq_true,
    List.mem_range, Bool.or_eq_true, beq_iff_eq, List.contains_iff_mem] at h
  obtain ⟨⟨⟨hne, hup⟩, hnot⟩, hhoused⟩ := h
  refine ⟨hne, ?_, ?_, fun k hpos hk => (hhoused k hk).resolve_left (Nat.ne_of_gt hpos)⟩
  · simpa using hup
  · simpa using hnot

theorem files_housed {f : String × String} (hf : f ∈ files) :
    Housed (PathName.partsOf f.1) := by
  have hall : (files.map fun f => PathName.partsOf f.1).all isHoused = true := by decide +kernel
  exact housed_of_isHoused (List.all_eq_true.mp hall _ (List.mem_map_of_mem hf))

theorem files_distinct : (files.map fun f => PathName.partsOf f.1).Nodup := by
  decide +kernel

theorem nil_notMem_directories : ([] : Location) ∉ directories := by
  decide +kernel

theorem node_directory {l : Location} (hl : l ∈ directories) :
    alone.node? l = some .directory := by
  have hne : l ≠ [] := fun h => nil_notMem_directories (h ▸ hl)
  have hdistinct : (directories.map fun l => l).Nodup := by decide +kernel
  have hlookup : (directories.map fun l => (l, TreeNode.directory)).lookup l = some .directory :=
    lookup_map_of_mem hdistinct hl
  rw [FileTree.node?, if_neg hne]
  simp only [alone, List.lookup_append, hlookup, Option.some_or]

theorem node_file {f : String × String} (hf : f ∈ files) :
    alone.node? (PathName.partsOf f.1) = some (.file f.2.toUTF8) := by
  have hhoused := files_housed hf
  have hlookup : (files.map fun f => (PathName.partsOf f.1, TreeNode.file f.2.toUTF8)).lookup
      (PathName.partsOf f.1) = some (.file f.2.toUTF8) := lookup_map_of_mem files_distinct hf
  have hnone : (directories.map fun l => (l, TreeNode.directory)).lookup (PathName.partsOf f.1)
      = none := by
    rw [List.lookup_eq_none_iff]
    intro entry hentry
    obtain ⟨l, hl, rfl⟩ := List.mem_map.mp hentry
    exact bne_iff_ne.mpr fun heq => hhoused.notMem (heq ▸ hl)
  rw [FileTree.node?, if_neg hhoused.ne_nil]
  simp only [alone, List.lookup_append, hnone, hlookup, Option.none_or]

theorem mounted_alone : Mounted alone [] where
  isDirectory := by
    rw [FileTree.isDirectory, FileTree.walk, FileTree.walkThrough, FileTree.walkIn]
  read f hf := by
    have hhoused := files_housed hf
    have hwalk : alone.walkIn (alone.walkThrough 40) [] (PathName.partsOf f.1)
        = .there ([] ++ PathName.partsOf f.1) (.file f.2.toUTF8) :=
      FileTree.walkIn_of_nodes _ hhoused.noUp
        (fun k hpos hk => node_directory (hhoused.housed k hpos hk)) hhoused.ne_nil (node_file hf)
    rw [List.nil_append, FileTree.read, FileTree.walk, FileTree.walkThrough, hwalk]

/-! ## The manifest -/

/-- What an item of a manifest says: a path and the name of a file. -/
def itemOf? (item : Datum) : Option (String × String) :=
  match item.get? "path", item.get? "body", item.get? "id" with
  | some (.str path), some (.str file), none => some (path, file)
  | _, _, _ => none

/-- Does a manifest list the entries of the bundled library? -/
def isListed (manifest : Datum) : Bool :=
  match manifest.get? "files" with
  | some (.list items) => items.map itemOf? == templates.map fun b => some (b.path, b.file)
  | _ => false

set_option maxRecDepth 100000 in
theorem manifest_reads :
    (Yaml.parse? manifest).any isListed = true ∧ manifest.toList.contains '\r' = false := by
  have hchars : manifest.toList = charsOf manifestLines := toList_textOf _
  simp only [manifestLines, charsOf, List.flatMap_cons, List.flatMap_nil] at hchars
  repeat rw [String.toList_ofList] at hchars
  rw [Yaml.parse?, Yaml.parse, hchars]
  exact ⟨by decide +kernel, by decide +kernel⟩

/-! ## Loading -/

variable {lib : Library} {t : FileTree} {cwd : Location}

theorem validate_file {b : BundledTemplate} (hb : b ∈ templates) :
    OutputPath.validate b.file = .ok () := by
  have hall : templates.all (fun b => (OutputPath.validate b.file).toBool) = true := by
    decide +kernel
  exact eq_ok_of_toBool (List.all_eq_true.mp hall b hb)

theorem read_template (h : Mounted t (lib.names cwd)) {b : BundledTemplate} (hb : b ∈ templates) :
    lib.read t cwd b.file = .ok (textOf b.lines) := by
  have hmem : (b.file, textOf b.lines) ∈ files :=
    List.mem_cons_of_mem _ (List.mem_map_of_mem (f := fun b => (b.file, textOf b.lines)) hb)
  have hread := h.read _ hmem
  have hplain : '\r' ∉ (textOf b.lines).toList := by
    rw [toList_textOf]
    exact (checked_of_mem hb).2
  obtain ⟨place, hwalk⟩ := FileTree.walk_of_read hread
  rw [Library.read, validate_file hb]
  simp only [PathName.namesFrom_join_ofNames]
  rw [← Library.names, FileTree.findsFile_of_walk hwalk]
  simp only [TextFile.read_toUTF8 hread hplain]
  rfl

def loadedOf (b : BundledTemplate) : LibraryEntry :=
  ⟨b.file, b.path, .str (textOf b.lines)⟩

theorem listedEntry_of_itemOf (h : Mounted t (lib.names cwd)) {b : BundledTemplate}
    (hb : b ∈ templates) {item : Datum} (hitem : itemOf? item = some (b.path, b.file))
    (index : Nat) : lib.listedEntry t cwd index item = .ok (loadedOf b) := by
  unfold itemOf? at hitem
  split at hitem
  · next path file hpath hbody hid =>
      cases hitem
      simp only [Library.listedEntry, hpath, hbody, hid, Option.getD_some, read_template h hb]
      rfl
  · cases hitem

theorem mapM_listedEntry (h : Mounted t (lib.names cwd)) {bs : List BundledTemplate}
    (hbs : ∀ b ∈ bs, b ∈ templates) {items : List Datum}
    (hitems : items.map itemOf? = bs.map fun b => some (b.path, b.file)) (start : Nat) :
    (items.zipIdx start).mapM (fun (item, index) => lib.listedEntry t cwd index item)
      = .ok (bs.map loadedOf) := by
  induction bs generalizing items start with
  | nil =>
      rw [List.map_nil, List.map_eq_nil_iff] at hitems
      subst hitems
      rfl
  | cons b bs ih =>
      obtain ⟨hb, hrest⟩ := List.forall_mem_cons.mp hbs
      obtain ⟨item, items, rfl, hitem, hitems⟩ := List.map_eq_cons_iff.mp hitems
      rw [List.zipIdx_cons, List.mapM_cons]
      simp only [listedEntry_of_itemOf h hb hitem, ih hrest hitems]
      rfl

theorem load_mounted (h : Mounted t (lib.names cwd)) :
    lib.load t cwd = .ok (templates.map loadedOf) := by
  have hname : PathName.partsOf "manifest.yaml" = [Library.manifestName] := by decide +kernel
  have hread : t.read (lib.names cwd ++ [Library.manifestName]) = .ok manifest.toUTF8 := by
    rw [← hname]
    exact h.read ("manifest.yaml", manifest) List.mem_cons_self
  have hplain : '\r' ∉ manifest.toList := by simpa using manifest_reads.2
  obtain ⟨d, hparse, hlisted⟩ := (Option.any_eq_true _ _).mp manifest_reads.1
  refine (Library.load_manifest h.isDirectory hread hplain hparse).trans ?_
  unfold isListed at hlisted
  split at hlisted
  · next items hfiles =>
      simp only [Library.listedEntries, hfiles]
      exact mapM_listedEntry h (fun _ => id) (eq_of_beq hlisted) 0
  · cases hlisted

theorem templateSet_loaded (hhelpers : lib.helpers = .standard) :
    lib.templateSet (templates.map loadedOf) = .ok templateSet := by
  have hentries : (templates.map loadedOf).mapM (LibraryEntry.template · lib.helpers)
      = .ok (templates.map entryOf) := by
    rw [hhelpers, List.mapM_map]
    exact List.mapM_pure
  rw [Library.templateSet, hentries]
  rfl

end Bundle

/-! ## Requests -/

namespace Workshop

theorem templates_mounted {s : Settings} {t : FileTree} {cwd : Location}
    (h : Bundle.Mounted t (s.templates.namesFrom cwd)) :
    (standard s).templates t cwd = .ok Bundle.templateSet := by
  have hload : (standard s).library.load t cwd = .ok (Bundle.templates.map Bundle.loadedOf) :=
    Bundle.load_mounted h
  have hset : (standard s).library.templateSet (Bundle.templates.map Bundle.loadedOf)
      = .ok Bundle.templateSet := Bundle.templateSet_loaded rfl
  simp only [templates, hload, Except.mapError, bind, Except.bind, hset]

theorem generate_of_assemble {w : Workshop} {t : FileTree} {cwd : Location} {r : Request}
    {project : Project} {set : TemplateSet} {files : FileSet} (hproject : w.project r = .ok project)
    (htemplates : w.templates t cwd = .ok set)
    (hfiles : w.assembler.assemble set project.toContext = .ok files) :
    w.generate t cwd r none = .ok ⟨project.pattern, files, project.warnings, []⟩ := by
  simp only [generate, make, hproject, htemplates, assembleInOrder, hfiles, Except.mapError, bind,
    Except.bind, Option.map_none, Option.getD_none, pure, Except.pure]

end Workshop

/-- Whatever pattern is asked for and whatever the decisions are, there are files for the request,
with the storage and the observers exactly where the context says that they are needed. It is one
file set in both modes, and the one that a request gives where the library is in place. -/
theorem bundled_library_never_fails (config : PatternConfig) :
    ∃ (storage realTime : Bool) (files : FileSet),
      (Builder.standard.build config).get? "storageNeeded" = some (.bool storage) ∧
      (Builder.standard.build config).get? "realTimeSubscriptions" = some (.bool realTime) ∧
      files.paths = Bundle.paths storage realTime ∧
      (∀ a : Assembler,
        a.assemble Bundle.templateSet (Builder.standard.build config) = .ok files) ∧
      ∀ (s : Settings) (t : FileTree) (cwd : Location),
        Bundle.Mounted t (s.templates.namesFrom cwd) →
          (Workshop.standard s).generate t cwd (.checked config) none
            = .ok ⟨(Builder.standard.project config).pattern, files,
                (Builder.standard.project config).warnings, []⟩ := by
  obtain ⟨files, hpaths, hfiles⟩ := Bundle.exists_assemble (Builder.standard.project config)
  refine ⟨_, _, files, rfl, rfl, hpaths, hfiles, fun s t cwd h => ?_⟩
  exact Workshop.generate_of_assemble rfl (Workshop.templates_mounted h) (hfiles _)

theorem bundled_library_never_fails_example :
    Bundle.Mounted Bundle.alone [] ∧
      ∃ product, (Workshop.standard (.standard ⟨.root, []⟩)).generate Bundle.alone []
          (.checked ⟨"unheard_of", ⟨[]⟩⟩) none = .ok product ∧
        product.files.paths = Bundle.paths false false := by
  obtain ⟨storage, realTime, files, hstorage, hrealTime, hpaths, -, hgenerate⟩ :=
    bundled_library_never_fails ⟨"unheard_of", ⟨[]⟩⟩
  have hstorage' : (Builder.standard.build ⟨"unheard_of", ⟨[]⟩⟩).get? "storageNeeded"
      = some (.bool false) := rfl
  have hrealTime' : (Builder.standard.build ⟨"unheard_of", ⟨[]⟩⟩).get? "realTimeSubscriptions"
      = some (.bool false) := rfl
  rw [hstorage] at hstorage'
  rw [hrealTime] at hrealTime'
  cases hstorage'
  cases hrealTime'
  exact ⟨Bundle.mounted_alone, _, hgenerate _ _ _ Bundle.mounted_alone, hpaths⟩

end Scaffold
