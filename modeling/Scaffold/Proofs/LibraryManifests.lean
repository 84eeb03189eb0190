import Scaffold.Proofs.LegibleLibraries
import Scaffold.Proofs.ReadingFiles
import Scaffold.Proofs.StandardHelpers

namespace Scaffold

/-!
# Manifests of libraries

A manifest may hold anything. The first of its items that is flawed ends the
loading; where there is none every item is an entry. The path of an entry
is a text, but its body is whatever the item gives as content. Where that
is text, the entries are templates, and assembling them leads to files or
to a report.
-/

/-- The content of the item is text, unless there is none or a reference stands for it. -/
def Datum.InlineText (item : Datum) : Prop :=
  (item.get? "body").getD .null = .null →
    ∀ content, item.get? "content" = some content → ∃ text, content = .str text

namespace Library

variable {lib : Library} {t : FileTree} {cwd : Location}

theorem Describes.text_iff {item : Datum} {path : String} {body : Datum}
    (h : lib.Describes t cwd item path body) :
    (∃ text, body = .str text) ↔ item.InlineText := by
  cases h with
  | referenced _ hbody =>
      refine ⟨fun _ hnull => ?_, fun _ => ⟨_, rfl⟩⟩
      rw [hbody] at hnull
      cases hnull
  | inline _ hbody hcontent =>
      constructor
      · intro htext _ content hget
        cases hcontent.symm.trans hget
        exact htext
      · intro hinline
        exact hinline hbody _ hcontent
  | empty _ hbody hcontent =>
      refine ⟨fun _ _ content hget => ?_, fun _ => ⟨_, rfl⟩⟩
      cases hcontent.symm.trans hget

variable (lib t cwd)

/-- The library is there and its manifest is read as the datum. -/
structure HasManifest (d : Datum) : Prop where
  directory : t.findsDirectory (lib.names cwd) = .ok true
  parses : ∃ text, TextFile.read t (lib.manifestPath.namesFrom cwd) lib.manifestPath.text
    = .ok text ∧ Yaml.parse? text = some d

/-- What is wrong with a manifest: it has no items, or the first flawed item has the flaw. -/
inductive ManifestFlaw (d : Datum) : LibraryFlaw → Prop
  | noItems (hitems : ∀ items, d.get? "files" ≠ some (.list items)) :
      ManifestFlaw d (.noFileList lib.manifestPath.text)
  | item {before after : List Datum} {item : Datum} {f : LibraryFlaw}
      (hitems : d.get? "files" = some (.list (before ++ item :: after)))
      (hbefore : ∀ earlier ∈ before, ∃ path body, lib.Describes t cwd earlier path body)
      (hitem : lib.Flawed t cwd before.length item f) : ManifestFlaw d f

variable {lib t cwd}

theorem HasManifest.load_eq {d : Datum} (h : lib.HasManifest t cwd d) :
    lib.load t cwd = lib.listedEntries t cwd d := by
  obtain ⟨text, hread, hparse⟩ := h.parses
  have hthere : t.contains (lib.manifestPath.namesFrom cwd) = .ok true := by
    have htext := hread
    unfold TextFile.read at htext
    split at htext
    · cases htext
    · next content hcontent =>
        obtain ⟨place, hwalk⟩ := FileTree.walk_of_read hcontent
        exact FileTree.contains_of_there hwalk
  simp only [load, h.directory, hthere, hread, Yaml.parse?_eq_some_iff.mp hparse]

theorem HasManifest.lists {d : Datum} (h : lib.HasManifest t cwd d) {items : List Datum}
    (hitems : d.get? "files" = some (.list items)) : lib.Lists t cwd items := by
  obtain ⟨text, hread, hparse⟩ := h.parses
  exact ⟨text, d, hread, hparse, hitems⟩

/-- Items that are read one by one, from an index on: the first flawed one ends the reading. -/
theorem mapM_listedEntry_cases {items : List Datum}
    (hanswers : ∀ item ∈ items, ∀ name, item.get? "body" = some (.str name) →
      t.Answers (lib.fileNames cwd name))
    (htexts : ∀ item ∈ items, ∀ name, item.get? "body" = some (.str name) →
      t.HoldsText (lib.fileNames cwd name)) (start : Nat) :
    (∃ before item after f, items = before ++ item :: after ∧
      (∀ earlier ∈ before, ∃ path body, lib.Describes t cwd earlier path body) ∧
      lib.Flawed t cwd (start + before.length) item f ∧
      (items.zipIdx start).mapM (fun (item, index) => lib.listedEntry t cwd index item)
        = .error (.flaw f)) ∨
      ∃ entries, (items.zipIdx start).mapM (fun (item, index) => lib.listedEntry t cwd index item)
          = .ok entries ∧
        List.Forall₂ (fun item e => lib.Describes t cwd item e.path e.body) items entries := by
  induction items generalizing start with
  | nil => exact Or.inr ⟨[], rfl, .nil⟩
  | cons item rest ih =>
      obtain ⟨hanswer, hanswers⟩ := List.forall_mem_cons.mp hanswers
      obtain ⟨htext, htexts⟩ := List.forall_mem_cons.mp htexts
      rw [List.zipIdx_cons, List.mapM_cons]
      rcases listedEntry_describes hanswer htext start with
        ⟨e, hentry, hdescribes⟩ | ⟨f, hentry, hflawed⟩
      · rcases ih hanswers htexts (start + 1) with
          ⟨before, other, after, f, rfl, hbefore, hflawed, hrest⟩ | ⟨entries, hrest, hentries⟩
        · refine Or.inl ⟨item :: before, other, after, f, rfl, ?_, ?_, ?_⟩
          · exact List.forall_mem_cons.mpr ⟨⟨_, _, hdescribes⟩, hbefore⟩
          · rwa [Nat.add_assoc, Nat.add_comm 1] at hflawed
          · simp only [hentry, hrest, bind, Except.bind]
        · refine Or.inr ⟨e :: entries, ?_, .cons hdescribes hentries⟩
          simp only [hentry, hrest, bind, Except.bind, pure, Except.pure]
      · refine Or.inl ⟨[], item, rest, f, rfl, by simp, hflawed, ?_⟩
        simp only [hentry, bind, Except.bind]

/-- Loading finds the first flaw, or an entry for every item. -/
theorem HasManifest.load_cases {d : Datum} (h : lib.HasManifest t cwd d)
    (hanswers : ∀ name, lib.Refers t cwd name → t.Answers (lib.fileNames cwd name))
    (htexts : ∀ name, lib.Refers t cwd name → t.HoldsText (lib.fileNames cwd name)) :
    (∃ f, lib.load t cwd = .error (.flaw f) ∧ lib.ManifestFlaw t cwd d f) ∨
      ∃ items entries, d.get? "files" = some (.list items) ∧ lib.load t cwd = .ok entries ∧
        List.Forall₂ (fun item e => lib.Describes t cwd item e.path e.body) items entries := by
  rw [h.load_eq, listedEntries]
  split
  · next items hitems =>
      have hrefers {item : Datum} (hitem : item ∈ items) {name : String}
          (hname : item.get? "body" = some (.str name)) : lib.Refers t cwd name :=
        .listed (h.lists hitems) hitem hname
      rcases mapM_listedEntry_cases (fun item hitem name hname => hanswers name (hrefers hitem hname))
        (fun item hitem name hname => htexts name (hrefers hitem hname)) 0 with
        ⟨before, item, after, f, rfl, hbefore, hflawed, hrun⟩ | ⟨entries, hrun, hentries⟩
      · rw [Nat.zero_add] at hflawed
        exact Or.inl ⟨f, hrun, .item hitems hbefore hflawed⟩
      · exact Or.inr ⟨items, entries, hitems, hrun, hentries⟩
  · next hnone => exact Or.inl ⟨_, rfl, .noItems hnone⟩

/-! ## Templates of what is described -/

theorem texts_iff {items : List Datum} {entries : List LibraryEntry}
    (h : List.Forall₂ (fun item e => lib.Describes t cwd item e.path e.body) items entries) :
    (∀ e ∈ entries, ∃ text, e.body = .str text) ↔ ∀ item ∈ items, item.InlineText := by
  induction h with
  | nil => simp
  | cons hdescribes _ ih => rw [List.forall_mem_cons, List.forall_mem_cons, ih, hdescribes.text_iff]

theorem exists_templates {items : List Datum} {entries : List LibraryEntry}
    (h : List.Forall₂ (fun item e => lib.Describes t cwd item e.path e.body) items entries)
    (hinline : ∀ item ∈ items, item.InlineText) :
    ∃ templates, entries.mapM (LibraryEntry.template · lib.helpers) = .ok templates ∧
      List.Forall₂ (fun item entry =>
        lib.Describes t cwd item entry.path.source (.str entry.body.source)) items templates ∧
      ∀ entry ∈ templates, entry.path.helpers = lib.helpers ∧ entry.body.helpers = lib.helpers := by
  induction h with
  | nil => exact ⟨[], rfl, .nil, by simp⟩
  | @cons item e items entries hdescribes _ ih =>
      obtain ⟨hitem, hinline⟩ := List.forall_mem_cons.mp hinline
      obtain ⟨templates, hrun, htemplates, hhelpers⟩ := ih hinline
      obtain ⟨text, htext⟩ := hdescribes.text_iff.mpr hitem
      rw [htext] at hdescribes
      refine ⟨TemplateEntry.ofStrings e.path text (some e.identifier) lib.helpers :: templates,
        ?_, .cons hdescribes htemplates, List.forall_mem_cons.mpr ⟨⟨rfl, rfl⟩, hhelpers⟩⟩
      have hsource : e.source = .ok text := by rw [LibraryEntry.source, htext]
      rw [List.mapM_cons, LibraryEntry.template, hsource, hrun]
      rfl

end Library

/-- Where the templates that a manifest refers to are texts, and the names of them not too long, the
first flaw in the manifest ends the loading, or there is an entry for each item, in order. The
bodies are texts exactly when the contents in the manifest are. Then there are templates of all
entries, and assembling them leads to files or to a report. -/
theorem manifest_flawed_or_usable {lib : Library} {t : FileTree} {cwd : Location} {d : Datum}
    (hmanifest : lib.HasManifest t cwd d)
    (hanswers : ∀ name, lib.Refers t cwd name → t.Answers (lib.fileNames cwd name))
    (htexts : ∀ name, lib.Refers t cwd name → t.HoldsText (lib.fileNames cwd name))
    (hhelpers : lib.helpers.Total) :
    (∃ f, lib.load t cwd = .error (.flaw f) ∧ lib.ManifestFlaw t cwd d f) ∨
      ∃ items entries, d.get? "files" = some (.list items) ∧ lib.load t cwd = .ok entries ∧
        List.Forall₂ (fun item e => lib.Describes t cwd item e.path e.body) items entries ∧
        ((∀ e ∈ entries, ∃ text, e.body = .str text) ↔ ∀ item ∈ items, item.InlineText) ∧
        ((∀ item ∈ items, item.InlineText) → ∃ set, lib.templateSet entries = .ok set ∧
          List.Forall₂ (fun item entry =>
            lib.Describes t cwd item entry.path.source (.str entry.body.source)) items set.entries ∧
          ∀ (a : Assembler) (c : Context), (∃ files, a.assemble set c = .ok files) ∨
            ∃ r, a.assemble set c = .error (.report r)) := by
  rcases hmanifest.load_cases hanswers htexts with hflaw | ⟨items, entries, hitems, hload, hentries⟩
  · exact Or.inl hflaw
  · refine Or.inr ⟨items, entries, hitems, hload, hentries, Library.texts_iff hentries, ?_⟩
    intro hinline
    obtain ⟨templates, hrun, htemplates, hsame⟩ := Library.exists_templates hentries hinline
    refine ⟨⟨templates⟩, by rw [Library.templateSet, hrun]; rfl, htemplates, fun a c => ?_⟩
    have htotal : ∀ entry ∈ (TemplateSet.mk templates).entries,
        entry.path.helpers.Total ∧ entry.body.helpers.Total := by
      intro entry hentry
      rw [(hsame entry hentry).1, (hsame entry hentry).2]
      exact ⟨hhelpers, hhelpers⟩
    obtain ⟨done, -, hassemble⟩ := Assembler.assemble_eq (a := a) (c := c) htotal
    rw [hassemble]
    split
    · exact Or.inl ⟨_, rfl⟩
    · exact Or.inr ⟨_, rfl⟩

def Datum.text? : Datum → Option String
  | .str s => some s
  | _ => none

theorem Datum.text?_eq_some_iff {d : Datum} {s : String} : d.text? = some s ↔ d = .str s := by
  cases d <;> simp [text?]

/-- The texts that the items of a manifest have for a key. -/
def Datum.itemTexts (d : Datum) (key : String) : List String :=
  match d.get? "files" with
  | some (.list items) => items.filterMap fun item => (item.get? key).bind text?
  | _ => []

/-- A library with one template, which its manifest refers to, and one content in the manifest. -/
def noticeManifest : String :=
  "files:\n  - path: a\n    body: b.hbs\n  - path: c\n    content: x\n"

def manifestTree (manifest : String) : FileTree :=
  ⟨[(["t"], .directory), (["t", "manifest.yaml"], .file manifest.toUTF8),
    (["t", "b.hbs"], .file "hello".toUTF8)]⟩

def noticeLibrary : Library := ⟨.ofNames ["t"], .standard⟩

theorem exists_noticeManifest : ∃ d, noticeLibrary.HasManifest (manifestTree noticeManifest) [] d ∧
    ∀ name, noticeLibrary.Refers (manifestTree noticeManifest) [] name → name = "b.hbs" := by
  have hbodies : (Yaml.parse? noticeManifest).map (·.itemTexts "body") = some ["b.hbs"] := by
    decide +kernel
  obtain ⟨d, hparse, hnames⟩ := Option.map_eq_some_iff.mp hbodies
  have hread : TextFile.read (manifestTree noticeManifest) ["t", "manifest.yaml"] "t/manifest.yaml"
      = .ok noticeManifest := by decide +kernel
  refine ⟨d, ⟨by decide +kernel, _, hread, hparse⟩, fun name hname => ?_⟩
  cases hname with
  | found hnone =>
      have hthere : (manifestTree noticeManifest).contains ["t", "manifest.yaml"] = .ok true := by
        decide +kernel
      cases hthere.symm.trans hnone
  | @listed items item _ hitems hitem hbody =>
      obtain ⟨text, d', hread', hparse', hitems⟩ := hitems
      cases hread.symm.trans hread'
      cases hparse.symm.trans hparse'
      have hmem : name ∈ d.itemTexts "body" := by
        rw [Datum.itemTexts, hitems]
        exact List.mem_filterMap.mpr ⟨item, hitem, by rw [hbody]; rfl⟩
      rw [hnames] at hmem
      exact List.mem_singleton.mp hmem

/-- Both items are entries with texts, and they lead to files. -/
theorem manifest_flawed_or_usable_example :
    ∃ d items entries set, noticeLibrary.HasManifest (manifestTree noticeManifest) [] d ∧
      d.get? "files" = some (.list items) ∧ (∀ item ∈ items, item.InlineText) ∧
      noticeLibrary.load (manifestTree noticeManifest) [] = .ok entries ∧
      noticeLibrary.templateSet entries = .ok set ∧
      Assembler.assemble ⟨.strict, true⟩ set ⟨[]⟩ = .ok ⟨[⟨"a", "hello"⟩, ⟨"c", "x"⟩]⟩ := by
  obtain ⟨d, hmanifest, hnames⟩ := exists_noticeManifest
  have hthere : (manifestTree noticeManifest).contains ["t", "b.hbs"] = .ok true := by
    decide +kernel
  have hcontent : (manifestTree noticeManifest).read ["t", "b.hbs"] = .ok "hello".toUTF8 := by
    decide +kernel
  have hbodies : ((noticeLibrary.load (manifestTree noticeManifest) []).toOption.map
      (·.map (·.body.text?))) = some [some "hello", some "x"] := by decide +kernel
  have hfiles : ((noticeLibrary.load (manifestTree noticeManifest) []).toOption.bind fun entries =>
      (noticeLibrary.templateSet entries).toOption.map fun set =>
        Assembler.assemble ⟨.strict, true⟩ set ⟨[]⟩)
      = some (.ok ⟨[⟨"a", "hello"⟩, ⟨"c", "x"⟩]⟩) := by decide +kernel
  have hanswers : ∀ name, noticeLibrary.Refers (manifestTree noticeManifest) [] name →
      (manifestTree noticeManifest).Answers (noticeLibrary.fileNames [] name) := by
    intro name hname trouble htrouble
    cases hnames name hname
    cases hthere.symm.trans htrouble
  have hutf8 : ∀ name, noticeLibrary.Refers (manifestTree noticeManifest) [] name →
      (manifestTree noticeManifest).HoldsText (noticeLibrary.fileNames [] name) := by
    intro name hname content hread
    cases hnames name hname
    cases hcontent.symm.trans hread
    exact "hello".isValidUTF8
  rcases manifest_flawed_or_usable hmanifest hanswers hutf8 Helpers.standard_total with
    ⟨f, hflaw, -⟩ | ⟨items, entries, hitems, hload, -, htexts, husable⟩
  · rw [hflaw] at hbodies
    cases hbodies
  · rw [hload] at hbodies hfiles
    have hlist : entries.map (·.body.text?) = [some "hello", some "x"] := Option.some.inj hbodies
    have hinline : ∀ item ∈ items, item.InlineText := by
      apply htexts.mp
      intro e he
      have hmem : e.body.text? ∈ entries.map (·.body.text?) := List.mem_map_of_mem he
      rw [hlist] at hmem
      rcases List.mem_cons.mp hmem with htext | hmem
      · exact ⟨_, Datum.text?_eq_some_iff.mp htext⟩
      · exact ⟨_, Datum.text?_eq_some_iff.mp (List.mem_singleton.mp hmem)⟩
    obtain ⟨set, hset, -, -⟩ := husable hinline
    refine ⟨d, items, entries, set, hmanifest, hitems, hinline, hload, hset, ?_⟩
    dsimp only [Except.toOption, Option.bind_some] at hfiles
    rw [hset] at hfiles
    exact Option.some.inj hfiles

/-- A manifest with a number in the place of a content. -/
def numberManifest : String :=
  "files:\n  - path: a\n    content: 5\n"

/-- A number is loaded as a body, and there is no template of it. -/
theorem manifest_neither_flawed_nor_usable :
    ∃ e, noticeLibrary.load (manifestTree numberManifest) [] = .ok [e] ∧
      (∀ text, e.body ≠ .str text) ∧
      noticeLibrary.templateSet [e] = .error (.noLength "int") := by
  have hload : (noticeLibrary.load (manifestTree numberManifest) []).toOption.map
      (·.map fun e => (e.body.text?, e.source)) = some [(none, .error (.noLength "int"))] := by
    decide +kernel
  obtain ⟨entries, hentries, hbodies⟩ := Option.map_eq_some_iff.mp hload
  obtain ⟨e, rfl, hbody⟩ := List.map_eq_singleton_iff.mp hbodies
  obtain ⟨htext, hsource⟩ := Prod.mk.inj hbody
  refine ⟨e, eq_ok_of_toOption hentries, fun text hstr => ?_, ?_⟩
  · cases htext.symm.trans (Datum.text?_eq_some_iff.mpr hstr)
  · rw [Library.templateSet, List.mapM_cons, LibraryEntry.template, hsource]
    rfl

end Scaffold
