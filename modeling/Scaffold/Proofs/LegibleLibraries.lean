import Scaffold.Proofs.Assembling
import Scaffold.Proofs.Writing
import Scaffold.Workshop

namespace Scaffold

/-!
# Legible libraries

A library is legible when its manifest, if it has one, is a file, when all
that it reads is text, and when each content in the manifest is one. Then
loading it gives templates or finds a flaw, and nothing else goes wrong.
-/

/-! ## What names lead to -/

namespace FileTree

variable {t : FileTree} {names : List String}

/-- Names that can be asked about: none of them is too long. -/
def Answers (t : FileTree) (names : List String) : Prop :=
  ∀ trouble, t.contains names ≠ .error trouble

/-- The bytes of a file at the end of the names are those of a text. -/
def HoldsText (t : FileTree) (names : List String) : Prop :=
  ∀ content, t.read names = .ok content → content.IsValidUTF8

/-- The names lead to nothing, or to a file and not to a directory. -/
def FileAtMost (t : FileTree) (names : List String) : Prop :=
  t.contains names = .ok false ∨ t.findsFile names = .ok true

theorem exists_read_of_findsFile (h : t.findsFile names = .ok true) :
    ∃ content, t.read names = .ok content := by
  rw [findsFile] at h
  cases hcontains : t.contains names with
  | error trouble =>
      rw [hcontains] at h
      cases h
  | ok there =>
      rw [hcontains] at h
      have hfile : t.isFile names = true := Except.ok.inj h
      unfold isFile at hfile
      split at hfile
      · next content hwalk => exact ⟨content, by rw [read, hwalk]⟩
      · cases hfile

theorem Answers.exists_contains (h : t.Answers names) : ∃ there, t.contains names = .ok there := by
  cases hcontains : t.contains names with
  | error trouble => exact absurd hcontains (h trouble)
  | ok there => exact ⟨there, rfl⟩

theorem Answers.findsFile (h : t.Answers names) : ∃ found, t.findsFile names = .ok found := by
  obtain ⟨there, hthere⟩ := h.exists_contains
  exact ⟨t.isFile names, by rw [FileTree.findsFile, hthere]; rfl⟩

theorem Answers.findsDirectory (h : t.Answers names) :
    ∃ found, t.findsDirectory names = .ok found := by
  obtain ⟨there, hthere⟩ := h.exists_contains
  exact ⟨t.isDirectory names, by rw [FileTree.findsDirectory, hthere]; rfl⟩

theorem FileAtMost.cases (h : t.FileAtMost names) :
    t.contains names = .ok false ∨ t.contains names = .ok true ∧ t.findsFile names = .ok true := by
  refine h.imp_right fun hfile => ⟨?_, hfile⟩
  obtain ⟨content, hread⟩ := exists_read_of_findsFile hfile
  unfold read at hread
  split at hread
  · next hwalk => rw [contains, hwalk]
  all_goals cases hread

end FileTree

namespace TextFile

variable {t : FileTree} {names : List String}

theorem exists_decode {content : ByteArray} (h : content.IsValidUTF8) :
    ∃ text, decode? content = some text := by
  rw [decode?, String.fromUTF8?, dif_pos h]
  exact ⟨_, rfl⟩

theorem exists_read (h : t.HoldsText names) (hfile : t.findsFile names = .ok true)
    (shown : String) : ∃ text, read t names shown = .ok text := by
  obtain ⟨content, hcontent⟩ := FileTree.exists_read_of_findsFile hfile
  obtain ⟨text, htext⟩ := exists_decode (h content hcontent)
  exact ⟨text, by simp only [read, hcontent, htext]⟩

end TextFile

/-! ## What a library reads -/

/-- The data that are read as sources: texts, and collections with nothing in them. -/
inductive Datum.IsSource : Datum → Prop
  | text (s : String) : IsSource (.str s)
  | list : IsSource (.list [])
  | tuple : IsSource (.tuple [])
  | map : IsSource (.map [])

namespace Library

variable (lib : Library) (t : FileTree) (cwd : Location)

/-- The manifest is there and has these items. -/
def Lists (items : List Datum) : Prop :=
  ∃ text d, TextFile.read t (lib.manifestPath.namesFrom cwd) lib.manifestPath.text = .ok text ∧
    Yaml.parse? text = some d ∧ d.get? "files" = some (.list items)

/-- The templates that are read from files. -/
inductive Refers : String → Prop
  | found {name : String} (hnone : t.contains (lib.manifestPath.namesFrom cwd) = .ok false)
      (hname : name ∈ lib.list t cwd) : Refers name
  | listed {items : List Datum} {item : Datum} {name : String} (hitems : lib.Lists t cwd items)
      (hitem : item ∈ items) (hname : item.get? "body" = some (.str name)) : Refers name

/-- The names of a template from the root. -/
def fileNames (name : String) : List String :=
  (lib.directory.join (.ofNames (PathName.partsOf name))).namesFrom cwd

/-- What is wrong with the name of a template. -/
inductive Unreadable (name : String) : LibraryFlaw → Prop
  | escapes {e : UnsafePath} (h : OutputPath.validate name = .error e) : Unreadable name (.escapes e)
  | noFile (hsafe : OutputPath.validate name = .ok ())
      (hnone : t.findsFile (lib.fileNames cwd name) = .ok false) :
      Unreadable name (.noFile (lib.directory.join (.ofNames (PathName.partsOf name))).text)

/-- The path source and the body that an item of a manifest stands for. -/
inductive Describes (item : Datum) : String → Datum → Prop
  | referenced {path name shown text : String} (hpath : item.get? "path" = some (.str path))
      (hbody : item.get? "body" = some (.str name)) (hsafe : OutputPath.validate name = .ok ())
      (hread : TextFile.read t (lib.fileNames cwd name) shown = .ok text) :
      Describes item path (.str text)
  | inline {path : String} {content : Datum} (hpath : item.get? "path" = some (.str path))
      (hbody : (item.get? "body").getD .null = .null)
      (hcontent : item.get? "content" = some content) : Describes item path content
  | empty {path : String} (hpath : item.get? "path" = some (.str path))
      (hbody : (item.get? "body").getD .null = .null) (hcontent : item.get? "content" = none) :
      Describes item path (.str "")

/-- What is wrong with the item of a manifest at an index. -/
inductive Flawed (index : Nat) (item : Datum) : LibraryFlaw → Prop
  | noPath (hpath : ∀ path, item.get? "path" ≠ some (.str path)) :
      Flawed index item (.noPath lib.manifestPath.text index)
  | badBody {path : String} {body : Datum} (hpath : item.get? "path" = some (.str path))
      (hbody : item.get? "body" = some body) (hnull : body ≠ .null)
      (htext : ∀ name, body ≠ .str name) : Flawed index item (.badBody lib.manifestPath.text index)
  | reference {path name : String} {f : LibraryFlaw} (hpath : item.get? "path" = some (.str path))
      (hbody : item.get? "body" = some (.str name)) (hname : lib.Unreadable t cwd name f) :
      Flawed index item f

/-- Loading the library comes to nothing that is no template and no flaw. -/
structure Legible : Prop where
  directory : t.Answers (lib.names cwd)
  manifest : t.FileAtMost (lib.manifestPath.namesFrom cwd)
  manifestText : t.HoldsText (lib.manifestPath.namesFrom cwd)
  manifestData : ∀ text why,
    TextFile.read t (lib.manifestPath.namesFrom cwd) lib.manifestPath.text = .ok text →
      Yaml.parse text = .error why → why = .malformed
  answers : ∀ name, lib.Refers t cwd name → t.Answers (lib.fileNames cwd name)
  texts : ∀ name, lib.Refers t cwd name → t.HoldsText (lib.fileNames cwd name)
  contents : ∀ items, lib.Lists t cwd items → ∀ item ∈ items,
    (item.get? "body").getD .null = .null → ∀ d, item.get? "content" = some d → d.IsSource

end Library

namespace LibraryEntry

end LibraryEntry

namespace Library

variable {lib : Library} {t : FileTree} {cwd : Location}

/-- A template that can be asked about and holds text is read, or its name is flawed. -/
theorem read_cases {name : String} (hanswers : t.Answers (lib.fileNames cwd name))
    (htext : t.HoldsText (lib.fileNames cwd name)) :
    (∃ shown text, OutputPath.validate name = .ok () ∧
      TextFile.read t (lib.fileNames cwd name) shown = .ok text ∧
      lib.read t cwd name = .ok text) ∨
      ∃ f, lib.Unreadable t cwd name f ∧ lib.read t cwd name = .error (.flaw f) := by
  cases hsafe : OutputPath.validate name with
  | error e => exact Or.inr ⟨_, .escapes hsafe, by rw [read, hsafe]⟩
  | ok _ =>
      obtain ⟨found, hfound⟩ := hanswers.findsFile
      have hfound' := hfound
      rw [fileNames] at hfound'
      cases found with
      | false => exact Or.inr ⟨_, .noFile hsafe hfound, by simp only [read, hsafe, hfound']⟩
      | true =>
          obtain ⟨text, hread⟩ := TextFile.exists_read htext hfound
            (lib.directory.join (.ofNames (PathName.partsOf name))).text
          refine Or.inl ⟨_, text, rfl, hread, ?_⟩
          rw [fileNames] at hread
          simp only [read, hsafe, hfound', hread]
          rfl

theorem plainEntry_cases (h : lib.Legible t cwd) {name : String} (hname : lib.Refers t cwd name) :
    (∃ e, lib.plainEntry t cwd name = .ok e ∧ e.body.IsSource) ∨
      ∃ f, lib.plainEntry t cwd name = .error (.flaw f) := by
  rw [plainEntry]
  rcases read_cases (h.answers name hname) (h.texts name hname) with
    ⟨_, body, -, -, hread⟩ | ⟨f, -, hread⟩
  · rw [hread]
    exact Or.inl ⟨_, rfl, .text body⟩
  · rw [hread]
    exact Or.inr ⟨f, rfl⟩

/-- An item of a manifest is an entry or flawed. -/
theorem listedEntry_describes {item : Datum}
    (hanswers : ∀ name, item.get? "body" = some (.str name) → t.Answers (lib.fileNames cwd name))
    (htexts : ∀ name, item.get? "body" = some (.str name) → t.HoldsText (lib.fileNames cwd name))
    (index : Nat) :
    (∃ e, lib.listedEntry t cwd index item = .ok e ∧ lib.Describes t cwd item e.path e.body) ∨
      ∃ f, lib.listedEntry t cwd index item = .error (.flaw f) ∧
        lib.Flawed t cwd index item f := by
  rw [listedEntry]
  split
  · next path hpath =>
      dsimp only
      split
      · next hnull =>
          cases hcontent : item.get? "content" with
          | none => exact Or.inl ⟨_, rfl, .empty hpath hnull hcontent⟩
          | some content => exact Or.inl ⟨_, rfl, .inline hpath hnull hcontent⟩
      · next name hname =>
          have hbody : item.get? "body" = some (.str name) := by
            cases hget : item.get? "body" with
            | none =>
                rw [hget] at hname
                cases hname
            | some body =>
                rw [hget] at hname
                exact congrArg some hname
          rcases read_cases (hanswers name hbody) (htexts name hbody) with
            ⟨shown, text, hsafe, hread, hresult⟩ | ⟨f, hflaw, hresult⟩
          · rw [hresult]
            exact Or.inl ⟨_, rfl, .referenced hpath hbody hsafe hread⟩
          · rw [hresult]
            exact Or.inr ⟨f, rfl, .reference hpath hbody hflaw⟩
      · next hnull hname =>
          cases hbody : item.get? "body" with
          | none => exact absurd (by rw [hbody]; rfl) hnull
          | some body =>
              rw [hbody] at hnull hname
              exact Or.inr ⟨_, rfl, .badBody hpath hbody hnull hname⟩
  · next hpath => exact Or.inr ⟨_, rfl, .noPath hpath⟩

theorem Describes.isSource {item : Datum} {path : String} {body : Datum}
    (h : lib.Describes t cwd item path body)
    (hcontent : (item.get? "body").getD .null = .null →
      ∀ d, item.get? "content" = some d → d.IsSource) : body.IsSource := by
  cases h with
  | referenced => exact .text _
  | inline _ hbody hget => exact hcontent hbody _ hget
  | empty => exact .text ""

theorem listedEntry_cases (h : lib.Legible t cwd) {items : List Datum}
    (hitems : lib.Lists t cwd items) {item : Datum} (hitem : item ∈ items) (index : Nat) :
    (∃ e, lib.listedEntry t cwd index item = .ok e ∧ e.body.IsSource) ∨
      ∃ f, lib.listedEntry t cwd index item = .error (.flaw f) := by
  have hrefers (name : String) (hname : item.get? "body" = some (.str name)) :
      lib.Refers t cwd name := .listed hitems hitem hname
  rcases listedEntry_describes (fun name hname => h.answers name (hrefers name hname))
    (fun name hname => h.texts name (hrefers name hname)) index with
    ⟨e, hentry, hdescribes⟩ | ⟨f, hflaw, -⟩
  · exact Or.inl ⟨e, hentry, hdescribes.isSource (h.contents items hitems item hitem)⟩
  · exact Or.inr ⟨f, hflaw⟩

/-- Steps each of which gives a source or finds a flaw. -/
theorem mapM_cases {α : Type} {g : α → Except LibraryError LibraryEntry} {xs : List α}
    (h : ∀ x ∈ xs, (∃ e, g x = .ok e ∧ e.body.IsSource) ∨ ∃ f, g x = .error (.flaw f)) :
    (∃ entries, xs.mapM g = .ok entries ∧ ∀ e ∈ entries, e.body.IsSource) ∨
      ∃ f, xs.mapM g = .error (.flaw f) := by
  cases hrun : xs.mapM g with
  | error e =>
      obtain ⟨x, hx, hgx⟩ := exists_of_mapM_eq_error hrun
      rcases h x hx with ⟨_, hok, -⟩ | ⟨f, hflaw⟩
      · rw [hgx] at hok
        cases hok
      · rw [hgx] at hflaw
        cases hflaw
        exact Or.inr ⟨f, rfl⟩
  | ok entries =>
      refine Or.inl ⟨entries, rfl, fun e he => ?_⟩
      obtain ⟨x, hx, hgx⟩ := Writer.exists_of_mem_forall₂ (mapM_eq_ok_iff.mp hrun) he
      rcases h x hx with ⟨_, hok, hsource⟩ | ⟨f, hflaw⟩
      · rw [hgx] at hok
        cases hok
        exact hsource
      · rw [hgx] at hflaw
        cases hflaw

theorem load_cases (h : lib.Legible t cwd) :
    (∃ entries, lib.load t cwd = .ok entries ∧ ∀ e ∈ entries, e.body.IsSource) ∨
      ∃ f, lib.load t cwd = .error (.flaw f) := by
  obtain ⟨found, hfound⟩ := FileTree.Answers.findsDirectory h.directory
  rw [load, hfound]
  cases found with
  | false => exact Or.inr ⟨_, rfl⟩
  | true =>
      dsimp only
      rcases h.manifest.cases with hnone | ⟨hthere, hfile⟩
      · rw [hnone]
        exact mapM_cases fun name hname => plainEntry_cases h (.found hnone hname)
      · obtain ⟨text, hread⟩ :=
          TextFile.exists_read h.manifestText hfile lib.manifestPath.text
        simp only [hthere, hread]
        cases hparse : Yaml.parse text with
        | error why =>
            cases h.manifestData text why hread hparse
            exact Or.inr ⟨_, rfl⟩
        | ok d =>
            dsimp only [listedEntries]
            split
            · next items hitems =>
                apply mapM_cases
                rintro ⟨item, index⟩ hitem
                have hmem : item ∈ items := (List.mem_zipIdx hitem).2.2 ▸ List.getElem_mem _
                exact listedEntry_cases h
                  ⟨text, d, hread, Yaml.parse?_eq_some_iff.mpr hparse, hitems⟩ hmem index
            · exact Or.inr ⟨_, rfl⟩

end Library

end Scaffold
