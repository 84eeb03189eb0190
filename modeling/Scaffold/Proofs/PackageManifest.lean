import Scaffold.Proofs.Ascii
import Scaffold.Proofs.BundledTemplates
import Scaffold.Proofs.JsonReading
import Scaffold.Proofs.MalformedDecisions

namespace Scaffold

/-!
# The package manifest of a project

The bundled template of the package manifest writes the project name
between quotes as it is and the description as JSON text, and puts whole
lines behind flags. A name in kebab case has nothing to escape, so what is
rendered is a printed map.
-/

/-! ## Names that need no escapes -/

namespace Json

/-- The character stands for itself in a string. -/
def Plain (c : Char) : Prop :=
  ¬ c.toNat < 32 ∧ c ≠ '"' ∧ c ≠ '\\'

instance (c : Char) : Decidable (Plain c) :=
  inferInstanceAs (Decidable (_ ∧ _ ∧ _))

theorem Plain.escapeChar_eq {c : Char} (h : Plain c) : escapeChar c = [c] := by
  obtain ⟨hlarge, hquote, hslash⟩ := h
  have hcontrol : ∀ d ∈ ['\n', '\r', '\t', '\x08', '\x0c'], c ≠ d := by
    rintro d hd rfl
    apply hlarge
    simp only [List.mem_cons, List.not_mem_nil, or_false] at hd
    rcases hd with rfl | rfl | rfl | rfl | rfl <;> decide
  rw [escapeChar_of_not_lettered, if_neg hlarge]
  simp only [lettered, List.mem_cons, hquote, hslash, false_or]
  intro hmem
  exact hcontrol c (by simpa only [List.mem_cons] using hmem) rfl

theorem flatMap_escapeChar {s : List Char} (h : ∀ c ∈ s, Plain c) : s.flatMap escapeChar = s := by
  induction s with
  | nil => rfl
  | cons c cs ih =>
      obtain ⟨hc, hcs⟩ := List.forall_mem_cons.mp h
      rw [List.flatMap_cons, hc.escapeChar_eq, ih hcs, List.singleton_append]

theorem plain_of_large {c : Char} (h : 92 < c.toNat) : Plain c := by
  refine ⟨by omega, ?_, ?_⟩
  · rintro rfl
    exact absurd h (by decide)
  · rintro rfl
    exact absurd h (by decide)

end Json

namespace Text

open Json

/-- All images of the run are characters behind the backslash. -/
def CaseRun.isLarge (r : CaseRun) : Bool :=
  92 < r.first + r.shift &&
    (r.last + r.shift < 0xd800 || 0xdfff < r.first + r.shift && r.last + r.shift < 0x110000)

theorem lower_isLarge : CaseTables.lower.all CaseRun.isLarge = true := by
  decide +kernel

theorem CaseRun.large_of_image {r : CaseRun} (h : r.isLarge = true) {n : Nat} {c : Char}
    (himage : r.image? n = some c) : 92 < c.toNat := by
  simp only [CaseRun.image?] at himage
  split at himage
  · next hrange =>
      cases himage
      simp only [Bool.and_eq_true, decide_eq_true_eq] at hrange
      simp only [isLarge, Bool.and_eq_true, Bool.or_eq_true, decide_eq_true_eq] at h
      obtain ⟨hfirst, hvalid⟩ := h
      have hchar : (Int.toNat (n + r.shift)).isValidChar := by
        rcases hvalid with hlast | ⟨hlow, hhigh⟩
        · exact Or.inl (by omega)
        · exact Or.inr ⟨by omega, by omega⟩
      rw [Char.ofNat, dif_pos hchar]
      change 92 < Int.toNat (n + r.shift)
      omega
  · cases himage

theorem lowerSpecial_large :
    ∀ e ∈ CaseTables.lowerSpecial, ∀ n ∈ e.2, 92 < (Char.ofNat n).toNat := by
  simp only [CaseTables.lowerSpecial]
  decide

theorem large_mapThrough {c : Char} (hc : 92 < c.toNat) :
    ∀ d ∈ mapThrough CaseTables.lowerSpecial CaseTables.lower c, 92 < d.toNat := by
  intro d hd
  rw [mapThrough] at hd
  split at hd
  · next image hfind =>
      obtain ⟨n, hn, rfl⟩ := List.mem_map.mp hd
      exact lowerSpecial_large _ (Array.mem_of_find?_eq_some hfind) n hn
  · split at hd
    · next e himage =>
        rw [List.mem_singleton] at hd
        subst hd
        obtain ⟨r, hr, hrc⟩ := Array.exists_of_findSome?_eq_some himage
        exact CaseRun.large_of_image (Array.all_eq_true'.mp lower_isLarge r hr) hrc
    · rw [List.mem_singleton] at hd
      exact hd ▸ hc

theorem plain_lowerChar {c : Char} (h : isAlphanumeric c = true) :
    ∀ d ∈ lowerChar c, Plain d := by
  intro d hd
  by_cases hascii : c.val < 128
  · rw [isAlphanumeric_of_ascii hascii] at h
    rw [lowerChar_of_ascii hascii, List.mem_singleton] at hd
    subst hd
    revert h
    exact forall_ascii (P := fun c => c.isAlphanum = true → Plain c.toLower) (by decide) c hascii
  · rw [lowerChar, if_neg hascii] at hd
    have hlarge : 128 ≤ c.toNat := UInt32.le_iff_toNat_le.mp (UInt32.not_lt.mp hascii)
    exact plain_of_large (large_mapThrough (by omega) d hd)

theorem plain_lowerAfter {s : List Char} (h : ∀ c ∈ s, isAlphanumeric c = true) (before : Bool) :
    ∀ d ∈ lowerAfter before s, Plain d := by
  induction s generalizing before with
  | nil => exact List.forall_mem_nil _
  | cons c cs ih =>
      obtain ⟨hc, hcs⟩ := List.forall_mem_cons.mp h
      intro d hd
      rw [lowerAfter] at hd
      rcases List.mem_append.mp hd with hd | hd
      · split at hd
        · -- a capital sigma gives one of two small ones
          split at hd
          · rw [List.mem_singleton.mp hd]
            exact plain_of_large (by decide)
          · rw [List.mem_singleton.mp hd]
            exact plain_of_large (by decide)
        · exact plain_lowerChar hc d hd
      · exact ih hcs _ d hd

end Text

namespace Words

theorem plain_kebab (name : String) : ∀ c ∈ (kebab name).toList, Json.Plain c := by
  intro c hc
  rw [kebab, Spelling.respell, String.toList_ofList, Spelling.join] at hc
  rcases Text.eq_sep_or_mem_of_mem_joinWith hc with rfl | ⟨word, hword, hc⟩
  · decide
  · obtain ⟨w, hw, rfl⟩ := List.mem_map.mp hword
    exact Text.plain_lowerAfter (isWord_of_mem_splitChars hw).alphanumeric false c hc

end Words

/-! ## Templates that only write out entries -/

/-- A piece of a template that holds no loop and no alternative. -/
inductive Fragment
  | text (s : String)
  | entry (name : String)
  /-- An entry as JSON text. -/
  | quoted (name : String)
  /-- Text behind a flag. -/
  | guarded (flag s : String)
  deriving DecidableEq, Repr

namespace Fragment

def ofNode? : Node → Option Fragment
  | .text s _ => some (.text s)
  | .interpolation ⟨name, []⟩ [] _ => some (.entry name)
  | .interpolation ⟨name, []⟩ ["json"] _ => some (.quoted name)
  | .conditional false ⟨flag, []⟩ [.text s _] none _ => some (.guarded flag s)
  | _ => none

/-- The fragments of a template with these characters. -/
def ofSource? (source : List Char) : Option (List Fragment) :=
  match (TokenStream.ofChars source).parse Helpers.standard.knows with
  | .ok nodes => nodes.mapM ofNode?
  | .error _ => none

/-- What a fragment is written as, with these texts and flags for entries. -/
def write (texts : String → String) (flags : String → Bool) : Fragment → String
  | .text s => s
  | .entry name => texts name
  | .quoted name => Json.quote (texts name)
  | .guarded flag s => if flags flag then s else ""

/-- What the fragment asks for is in the context, as the texts and flags say. -/
def Known (c : Context) (texts : String → String) (flags : String → Bool) : Fragment → Prop
  | .text _ => True
  | .entry name | .quoted name =>
      (Scope.root c).resolve ⟨name, []⟩ = .ok (some (.str (texts name)))
  | .guarded flag _ => (Scope.root c).resolve ⟨flag, []⟩ = .ok (some (.bool (flags flag)))

variable {c : Context} {texts : String → String} {flags : String → Bool}

theorem renderNode_ofNode {node : Node} {f : Fragment} (hnode : ofNode? node = some f)
    (hknown : f.Known c texts flags) (mode : RenderMode) :
    Renderer.renderNode ⟨.standard, mode⟩ node (.root c) = .ok (f.write texts flags) := by
  unfold ofNode? at hnode
  split at hnode
  · cases hnode
    rfl
  · next name _ =>
      cases hnode
      rw [Renderer.renderNode, Renderer.interpolate, Renderer.resolve_of_ok hknown]
      rfl
  · next name _ =>
      cases hnode
      rw [Renderer.renderNode, Renderer.interpolate, Renderer.resolve_of_ok hknown]
      rfl
  · next flag s _ _ =>
      cases hnode
      rw [Renderer.renderNode_conditional hknown, Destination.renderNodes_text, write]
      cases flags flag <;> rfl
  · cases hnode

theorem renderNodes_ofNodes {nodes : List Node} {fragments : List Fragment}
    (hnodes : nodes.mapM ofNode? = some fragments)
    (hknown : ∀ f ∈ fragments, f.Known c texts flags) (mode : RenderMode) :
    Renderer.renderNodes ⟨.standard, mode⟩ nodes (.root c)
      = .ok (String.join (fragments.map (write texts flags))) := by
  induction nodes generalizing fragments with
  | nil =>
      cases hnodes
      rfl
  | cons node nodes ih =>
      rw [List.mapM_cons] at hnodes
      obtain ⟨f, hf, hnodes⟩ := Option.bind_eq_some_iff.mp hnodes
      obtain ⟨fs, hfs, hnodes⟩ := Option.bind_eq_some_iff.mp hnodes
      cases hnodes
      obtain ⟨hfirst, hrest⟩ := List.forall_mem_cons.mp hknown
      rw [Renderer.renderNodes, renderNode_ofNode hf hfirst mode, ih hfs hrest, List.map_cons,
        String.join_cons]
      rfl

theorem render_of_source {source : String} {chars : List Char} {fragments : List Fragment}
    (hchars : source.toList = chars) (hsource : ofSource? chars = some fragments)
    (hknown : ∀ f ∈ fragments, f.Known c texts flags) (mode : RenderMode) :
    ∃ nodes, Node.parse Helpers.standard.knows source = .ok nodes ∧
      Renderer.render ⟨.standard, mode⟩ nodes c
        = .ok (String.join (fragments.map (write texts flags))) := by
  unfold ofSource? at hsource
  split at hsource
  · next nodes hparse =>
      refine ⟨nodes, ?_, renderNodes_ofNodes hsource hknown mode⟩
      rw [Node.parse_eq_ofChars hchars, hparse]
  · cases hsource

end Fragment

/-! ## The manifest -/

namespace PackageManifest

/-- Lines with breaks between them. -/
def unlines (lines : List String) : String :=
  "\n".intercalate lines

/-- The template in fragments. -/
def fragments : List Fragment :=
  [ .text (unlines ["\x7b", "  \"name\": \""])
  , .entry "projectNameKebab"
  , .text (unlines
      [ "\","
      , "  \"version\": \"0.1.0\","
      , "  \"private\": true,"
      , "  \"type\": \"module\","
      , "  \"description\": " ])
  , .quoted "description"
  , .text (unlines
      [ ","
      , "  \"scripts\": \x7b"
      , "    \"dev\": \"vite\","
      , "    \"build\": \"tsc && vite build\","
      , "    \"sandbox\": \"ampx sandbox\""
      , "  \x7d,"
      , "  \"dependencies\": \x7b"
      , "    \"@aws-amplify/ui-react\": \"^6.5.0\"," ])
  , .guarded "storageNeeded" (unlines
      ["", "    \"@aws-amplify/ui-react-storage\": \"^3.3.0\","])
  , .guarded "charts" (unlines ["", "    \"recharts\": \"^2.12.0\","])
  , .guarded "richText" (unlines
      [ ""
      , "    \"@tiptap/react\": \"^2.6.0\","
      , "    \"@tiptap/starter-kit\": \"^2.6.0\"," ])
  , .text (unlines
      [ ""
      , "    \"aws-amplify\": \"^6.6.0\","
      , "    \"react\": \"^18.3.1\","
      , "    \"react-dom\": \"^18.3.1\""
      , "  \x7d,"
      , "  \"devDependencies\": \x7b"
      , "    \"@aws-amplify/backend\": \"^1.2.0\","
      , "    \"@aws-amplify/backend-cli\": \"^1.2.0\","
      , "    \"@types/react\": \"^18.3.3\","
      , "    \"@types/react-dom\": \"^18.3.0\","
      , "    \"@vitejs/plugin-react\": \"^4.3.1\","
      , "    \"typescript\": \"^5.5.4\","
      , "    \"vite\": \"^5.4.0\""
      , "  \x7d"
      , "\x7d"
      , "" ]) ]

set_option maxRecDepth 100000 in
theorem fragments_parsed :
    Fragment.ofSource? (Bundle.charsOf Bundle.packageJson) = some fragments := by
  simp only [Bundle.charsOf, Bundle.packageJson, List.flatMap_cons, List.flatMap_nil]
  repeat rw [String.toList_ofList]
  decide +kernel

/-- A map of texts. -/
def versions (entries : List (String × String)) : Datum :=
  .map (entries.map fun (key, version) => (.str key, .str version))

def scripts : List (String × String) :=
  [("dev", "vite"), ("build", "tsc && vite build"), ("sandbox", "ampx sandbox")]

def dependencies (storage charts richText : Bool) : List (String × String) :=
  ("@aws-amplify/ui-react", "^6.5.0")
    :: ((if storage then [("@aws-amplify/ui-react-storage", "^3.3.0")] else [])
      ++ (if charts then [("recharts", "^2.12.0")] else [])
      ++ (if richText then [("@tiptap/react", "^2.6.0"), ("@tiptap/starter-kit", "^2.6.0")] else [])
      ++ [("aws-amplify", "^6.6.0"), ("react", "^18.3.1"), ("react-dom", "^18.3.1")])

def devDependencies : List (String × String) :=
  [ ("@aws-amplify/backend", "^1.2.0"), ("@aws-amplify/backend-cli", "^1.2.0")
  , ("@types/react", "^18.3.3"), ("@types/react-dom", "^18.3.0")
  , ("@vitejs/plugin-react", "^4.3.1"), ("typescript", "^5.5.4"), ("vite", "^5.4.0") ]

/-- The manifest as data. -/
def datum (name description : String) (storage charts richText : Bool) : Datum :=
  .map
    [ (.str "name", .str name)
    , (.str "version", .str "0.1.0")
    , (.str "private", .bool true)
    , (.str "type", .str "module")
    , (.str "description", .str description)
    , (.str "scripts", versions scripts)
    , (.str "dependencies", versions (dependencies storage charts richText))
    , (.str "devDependencies", versions devDependencies) ]

theorem legible_versions {entries : List (String × String)}
    (h : (entries.map (·.1)).Nodup) : Json.Legible (versions entries) := by
  have hnames : ((entries.map fun (key, version) => (key, Datum.str version)).map (·.1)).Nodup := by
    rwa [List.map_map]
  have hrecord := Json.Legible.record _ (List.forall_mem_map.mpr fun e _ => .str e.2) hnames
  rwa [List.map_map] at hrecord

theorem legible_datum (name description : String) (storage charts richText : Bool) :
    Json.Legible (datum name description storage charts richText) := by
  have hdependencies : ((dependencies storage charts richText).map (·.1)).Nodup := by
    cases storage <;> cases charts <;> cases richText <;> decide
  refine .record [(_, _), (_, _), (_, _), (_, _), (_, _), (_, _), (_, _), (_, _)] ?_ (by simp)
  simp only [List.forall_mem_cons]
  exact ⟨.str name, .str _, .bool true, .str _, .str description, legible_versions (by decide),
    legible_versions hdependencies, legible_versions (by decide), List.forall_mem_nil _⟩

/-- A key and the text of its item. -/
def member (key text : String) : String :=
  Json.quote key ++ ": " ++ text

/-- The lines of a map of texts that stands inside the manifest. -/
def versionText (entries : List (String × String)) : String :=
  Json.Layout.pretty.enclose 1 "\x7b" "\x7d"
    (entries.map fun (key, version) => member key (Json.quote version))

theorem writeEntries_versions (level : Nat) (entries : List (String × String)) :
    Json.writeEntries .pretty level (entries.map fun (key, version) => (.str key, .str version))
      = .ok (entries.map fun (key, version) => member key (Json.quote version)) := by
  induction entries with
  | nil => rfl
  | cons e entries ih =>
      rw [List.map_cons, Json.writeEntries, ih]
      rfl

theorem write_versions (entries : List (String × String)) :
    Json.write .pretty 1 (versions entries) = .ok (versionText entries) := by
  rw [versions, Json.write, writeEntries_versions]
  rfl

set_option maxRecDepth 100000 in
theorem versionText_dependencies (storage charts richText : Bool) :
    versionText (dependencies storage charts richText)
      = unlines ["\x7b", "    \"@aws-amplify/ui-react\": \"^6.5.0\","]
        ++ (if storage then unlines ["", "    \"@aws-amplify/ui-react-storage\": \"^3.3.0\","]
            else "")
        ++ (if charts then unlines ["", "    \"recharts\": \"^2.12.0\","] else "")
        ++ (if richText then unlines
              [ ""
              , "    \"@tiptap/react\": \"^2.6.0\","
              , "    \"@tiptap/starter-kit\": \"^2.6.0\"," ]
            else "")
        ++ unlines
          [ ""
          , "    \"aws-amplify\": \"^6.6.0\","
          , "    \"react\": \"^18.3.1\","
          , "    \"react-dom\": \"^18.3.1\""
          , "  \x7d" ] := by
  rw [← String.toList_inj]
  cases storage <;> cases charts <;> cases richText
  all_goals
    simp only [versionText, dependencies, member, unlines, Json.Layout.enclose,
      Json.Layout.lineBreak, Json.Layout.pretty, Json.quote, List.isEmpty_cons, Bool.false_eq_true,
      ↓reduceIte, List.map_cons, List.map_nil, List.nil_append, List.cons_append,
      List.intercalate_cons_cons, List.intercalate_singleton, String.toList_append,
      String.toList_intercalate, String.toList_ofList, String.reduceToList]
    rfl

def datumText (name description : String) (storage charts richText : Bool) : String :=
  Json.Layout.pretty.enclose 0 "\x7b" "\x7d"
    [ member "name" (Json.quote name)
    , member "version" (Json.quote "0.1.0")
    , member "private" "true"
    , member "type" (Json.quote "module")
    , member "description" (Json.quote description)
    , member "scripts" (versionText scripts)
    , member "dependencies" (versionText (dependencies storage charts richText))
    , member "devDependencies" (versionText devDependencies) ]

theorem print_datum (name description : String) (storage charts richText : Bool) :
    Json.print .pretty (datum name description storage charts richText)
      = .ok (datumText name description storage charts richText) := by
  rw [Json.print, datum, Json.write]
  simp only [Json.writeEntries, Nat.zero_add, write_versions]
  rfl

set_option maxRecDepth 100000 in
theorem join_fragments {texts : String → String} {flags : String → Bool}
    (hname : (texts "projectNameKebab").toList.flatMap Json.escapeChar
      = (texts "projectNameKebab").toList) :
    String.join (fragments.map (Fragment.write texts flags))
      = datumText (texts "projectNameKebab") (texts "description") (flags "storageNeeded")
          (flags "charts") (flags "richText") ++ "\n" := by
  rw [datumText, versionText_dependencies, ← String.toList_inj]
  simp only [fragments, Fragment.write, versionText, scripts, devDependencies, member, unlines,
    Json.Layout.enclose, Json.Layout.lineBreak, Json.Layout.pretty, Json.quote, hname,
    List.isEmpty_cons, Bool.false_eq_true, ↓reduceIte, List.map_cons, List.map_nil,
    List.intercalate_cons_cons, List.intercalate_singleton, List.append_assoc, List.cons_append,
    List.nil_append, String.join_cons, String.join_nil, String.toList_append,
    String.toList_intercalate, String.toList_ofList, String.reduceToList]
  rfl

/-- The texts and flags of a project that the manifest is made from. -/
def textsOf (p : Project) (name : String) : String :=
  if name = "projectNameKebab" then p.name.kebab else p.description

def flagsOf (p : Project) (flag : String) : Bool :=
  if flag = "storageNeeded" then p.storage.isSome
  else if flag = "charts" then p.charts else p.richText

theorem known_fragments (p : Project) :
    ∀ f ∈ fragments, f.Known p.toContext (textsOf p) (flagsOf p) := by
  have hcharts : (Scope.root p.toContext).resolve ⟨"charts", []⟩ = .ok (some (.bool p.charts)) := by
    obtain ⟨_, _, _, _, _, _, _, _, _, _, _ | provider, _, _, _, _, _⟩ := p <;> rfl
  have hrichText :
      (Scope.root p.toContext).resolve ⟨"richText", []⟩ = .ok (some (.bool p.richText)) := by
    obtain ⟨_, _, _, _, _, _, _, _, _, _, _ | provider, _, _, _, _, _⟩ := p <;> rfl
  simp only [fragments, List.forall_mem_cons]
  exact ⟨trivial, rfl, trivial, rfl, trivial, rfl, hcharts, hrichText, trivial,
    List.forall_mem_nil _⟩

/-- The manifest of a project is the print of its datum, and a line end. -/
theorem exists_rendered (p : Project) (mode : RenderMode) :
    ∃ nodes text, Node.parse Helpers.standard.knows (Bundle.textOf Bundle.packageJson) = .ok nodes ∧
      Renderer.render ⟨.standard, mode⟩ nodes p.toContext = .ok text ∧
      Json.parse? text = some (datum p.name.kebab p.description p.storage.isSome p.charts
        p.richText) := by
  obtain ⟨nodes, hnodes, hrender⟩ := Fragment.render_of_source
    (Bundle.toList_textOf Bundle.packageJson) fragments_parsed (known_fragments p) mode
  obtain ⟨text, hprint, hparse⟩ := Json.parse?_print Json.Layout.standard_pretty
    (legible_datum p.name.kebab p.description p.storage.isSome p.charts p.richText)
  refine ⟨nodes, _, hnodes, hrender, ?_⟩
  have hname : textsOf p "projectNameKebab" = p.name.kebab := if_pos rfl
  have hdescription : textsOf p "description" = p.description := if_neg (by decide)
  have hstorage : flagsOf p "storageNeeded" = p.storage.isSome := if_pos rfl
  have hcharts : flagsOf p "charts" = p.charts := by simp [flagsOf]
  have hrichText : flagsOf p "richText" = p.richText := by simp [flagsOf]
  have hplain := Json.flatMap_escapeChar (Words.plain_kebab p.name.name)
  rw [join_fragments (by rw [hname]; exact hplain), hname, hdescription, hstorage, hcharts,
    hrichText]
  rw [print_datum] at hprint
  cases hprint
  exact hparse ['\n'] (by simp [Json.Blanks, Json.isBlank])

end PackageManifest

/-- The manifest that is rendered for any request is one JSON object, with the name in kebab case
and the description as it is in the context. -/
theorem package_manifest_reads (config : PatternConfig) :
    ∃ nodes text entries description,
      Node.parse Helpers.standard.knows (Bundle.textOf Bundle.packageJson) = .ok nodes ∧
      Renderer.render ⟨.standard, .strict⟩ nodes (Builder.standard.build config) = .ok text ∧
      Json.parse? text = some (.map entries) ∧
      (Datum.map entries).get? "name"
        = some (.str (Words.kebab config.decisions.projectName)) ∧
      (Builder.standard.build config).get? "projectName"
        = some (.str config.decisions.projectName) ∧
      (Datum.map entries).get? "description" = some (.str description) ∧
      (Builder.standard.build config).get? "description" = some (.str description) := by
  obtain ⟨b, -, warnings, hproject⟩ := Builder.exists_blueprint config.patternName
  have hname : (Builder.standard.project config).name = ⟨config.decisions.projectName⟩ := by
    rw [hproject config.decisions]
    rfl
  obtain ⟨nodes, text, hnodes, hrender, hparse⟩ :=
    PackageManifest.exists_rendered (Builder.standard.project config) .strict
  rw [hname] at hparse
  refine ⟨nodes, text, _, _, hnodes, hrender, hparse, rfl, ?_, rfl, rfl⟩
  exact congrArg (fun n : ProjectName => some (Value.str n.name)) hname

end Scaffold
