import Scaffold.Bundle
import Scaffold.Proofs.Assembling
import Scaffold.Proofs.Checking
import Scaffold.Proofs.ContextShape

namespace Scaffold

/-!
# The bundled templates

Every bundled template passes the check against the shape of contexts, and
every path template is a path, alone or behind a flag. This is computed,
once for all templates, from the characters of the sources.
-/

/-! ## Helpers -/

namespace Helpers

theorem respells_of_find {hs : Helpers} {name : String} {h : Helper}
    (hfind : hs.find? name = some h) (htext : h.TextToText) : hs.Respells name := by
  refine ⟨h, hfind, htext.arity, ?_, htext.apply⟩
  rw [htext.accepts]
  rfl

theorem respells_json : standard.Respells "json" := by
  refine ⟨.json, rfl, rfl, rfl, fun s => ?_⟩
  obtain ⟨text, htext⟩ := Json.print_toDatum .spaced (.str s)
  refine ⟨text, ?_⟩
  change (Json.print .spaced (Value.str s).toDatum.thaw).map Datum.str = _
  rw [htext]
  rfl

end Helpers

/-! ## Destinations -/

/-- Where a file goes, and the flag without which there is none. -/
structure Destination where
  path : String
  flag? : Option String
  deriving DecidableEq, Repr

namespace Destination

/-- The destination that the nodes of a path template stand for, if they are a path, alone or
behind a flag. -/
def ofNodes? : List Node → Option Destination
  | [.text path _] => some ⟨path, none⟩
  | [.conditional false ⟨flag, []⟩ [.text path _] none _] => some ⟨path, some flag⟩
  | _ => none

/-- The path of the file, empty without the flag. -/
def pathWith (d : Destination) (flags : List (String × Bool)) : String :=
  match d.flag? with
  | none => d.path
  | some flag => if flags.lookup flag = some true then d.path else ""

theorem pathWith_eq (d : Destination) (flags : List (String × Bool)) :
    d.pathWith flags = "" ∨ d.pathWith flags = d.path := by
  rw [pathWith]
  split
  · exact Or.inr rfl
  · split
    · exact Or.inr rfl
    · exact Or.inl rfl

/-- The flags are known, and they are what the names lead to. -/
def Known (c : Context) (flags : List (String × Bool)) (d : Destination) : Prop :=
  ∀ flag, d.flag? = some flag → ∃ b, flags.lookup flag = some b ∧
    (Scope.root c).resolve ⟨flag, []⟩ = .ok (some (.bool b))

theorem renderNodes_text (r : Renderer) (path : String) (pos : Position) (s : Scope) :
    r.renderNodes [.text path pos] s = .ok path := by
  simp [Renderer.renderNodes, Renderer.renderNode, bind, Except.bind, pure, Except.pure]

theorem render_ofNodes {c : Context} {flags : List (String × Bool)} {nodes : List Node}
    {d : Destination} (hnodes : ofNodes? nodes = some d) (hknown : d.Known c flags)
    (r : Renderer) : r.render nodes c = .ok (d.pathWith flags) := by
  unfold ofNodes? at hnodes
  split at hnodes
  · next path pos =>
      cases hnodes
      rw [Renderer.render, renderNodes_text]
      rfl
  · next flag path _ pos =>
      cases hnodes
      obtain ⟨b, hflag, hresolve⟩ := hknown flag rfl
      rw [Renderer.render, Renderer.renderNodes, Renderer.renderNode_conditional hresolve,
        renderNodes_text, Renderer.renderNodes, pathWith]
      cases b <;> simp [Renderer.renderBranch, hflag, isTruthyAt, Value.isTruthy, bind,
        Except.bind, pure, Except.pure]
  · cases hnodes

end Destination

/-! ## Computing on characters -/

/-- The stream that the characters of a source give. -/
def TokenStream.ofChars (source : List Char) : TokenStream :=
  let (spans, unclosed) := Span.scan source
  { tokens := Token.place .start spans
    unclosed := unclosed.map fun u => (u, Position.start.advance (spans.flatMap Span.source)) }

theorem Node.parse_eq_ofChars {source : String} {chars : List Char} (h : source.toList = chars)
    (known : String → Bool) :
    Node.parse known source = (TokenStream.ofChars chars).parse known := by
  subst h
  rfl

namespace Bundle

/-- Lines as characters, each with its line end. -/
def charsOf (lines : List String) : List Char :=
  lines.flatMap fun line => line.toList ++ ['\n']

theorem toList_textOf (lines : List String) : (textOf lines).toList = charsOf lines := by
  rw [textOf, String.toList_join, List.flatMap_map]
  simp only [String.toList_append]
  rfl

/-- The helpers that the templates use. -/
def helperNames : List String :=
  ["titlecase", "json", "camelcase", "constantcase", "kebabcase"]

theorem respells_helperNames : ∀ name ∈ helperNames, Helpers.standard.Respells name := by
  intro name hname
  simp only [helperNames, List.mem_cons, List.not_mem_nil, or_false] at hname
  rcases hname with rfl | rfl | rfl | rfl | rfl
  · exact Helpers.respells_of_find rfl (Helper.textToText_ofText ..)
  · exact Helpers.respells_json
  · exact Helpers.respells_of_find rfl (Helper.textToText_ofText ..)
  · exact Helpers.respells_of_find rfl (Helper.textToText_ofText ..)
  · exact Helpers.respells_of_find rfl (Helper.textToText_ofText ..)

/-- Does a template with these characters pass the check? -/
def passes (source : List Char) : Bool :=
  match (TokenStream.ofChars source).parse Helpers.standard.knows with
  | .ok nodes => (Surroundings.root Project.shape).checkAll helperNames nodes
  | .error _ => false

/-- The destination of a path template with these characters. -/
def destination? (source : List Char) : Option Destination :=
  match (TokenStream.ofChars source).parse Helpers.standard.knows with
  | .ok nodes => Destination.ofNodes? nodes
  | .error _ => none

/-- The destinations of the entries, in order. -/
def destinations : List Destination :=
  [ ⟨"package.json", none⟩
  , ⟨"README.md", none⟩
  , ⟨".gitignore", none⟩
  , ⟨"index.html", none⟩
  , ⟨"amplify/backend.ts", none⟩
  , ⟨"amplify/auth/resource.ts", none⟩
  , ⟨"amplify/data/resource.ts", none⟩
  , ⟨"amplify/storage/resource.ts", some "storageNeeded"⟩
  , ⟨"src/main.tsx", none⟩
  , ⟨"src/App.tsx", none⟩
  , ⟨"src/components/index.tsx", none⟩
  , ⟨"src/lib/realtime.ts", some "realTimeSubscriptions"⟩ ]

set_option maxRecDepth 100000 in
theorem templates_checked :
    (templates.map fun b => charsOf b.lines).all
      (fun source => passes source && !source.contains '\r') = true := by
  simp only [templates, List.map_cons, List.map_nil, charsOf, packageJson, readme, ignored,
    indexHtml, backend, authResource, dataResource, storageResource, mainModule, appModule,
    componentsModule, realtimeModule, List.flatMap_cons, List.flatMap_nil]
  -- the kernel is slow at reading the characters off the bytes of a literal
  repeat rw [String.toList_ofList]
  decide +kernel

theorem checked_of_mem {b : BundledTemplate} (hb : b ∈ templates) :
    passes (charsOf b.lines) = true ∧ '\r' ∉ charsOf b.lines := by
  have hall := List.all_eq_true.mp templates_checked _ (List.mem_map_of_mem hb)
  rw [Bool.and_eq_true] at hall
  exact ⟨hall.1, by simpa using hall.2⟩

theorem templates_destinations :
    (templates.map fun b => destination? b.path.toList) = destinations.map some := by
  simp only [templates, List.map_cons, List.map_nil, storagePath, realtimePath]
  repeat rw [String.toList_ofList]
  decide +kernel

/-! ## Flags and paths -/

/-- The flags that a project sets for the entries. -/
def flags (p : Project) : List (String × Bool) :=
  [("storageNeeded", p.storage.isSome), ("realTimeSubscriptions", p.realTime)]

/-- The paths of the files, in order. -/
def paths (storage realTime : Bool) : List String :=
  [ "package.json", "README.md", ".gitignore", "index.html", "amplify/backend.ts"
  , "amplify/auth/resource.ts", "amplify/data/resource.ts" ]
    ++ (if storage then ["amplify/storage/resource.ts"] else [])
    ++ ["src/main.tsx", "src/App.tsx", "src/components/index.tsx"]
    ++ (if realTime then ["src/lib/realtime.ts"] else [])

theorem known_flags (p : Project) {d : Destination} (hd : d ∈ destinations) :
    d.Known p.toContext (flags p) := by
  intro flag hflag
  simp only [destinations, List.mem_cons, List.not_mem_nil, or_false] at hd
  rcases hd with rfl | rfl | rfl | rfl | rfl | rfl | rfl | rfl | rfl | rfl | rfl | rfl <;>
    cases hflag
  · exact ⟨p.storage.isSome, rfl, rfl⟩
  · exact ⟨p.realTime, rfl, rfl⟩

/-- The path of the file of an entry. -/
def pathOf (p : Project) (b : BundledTemplate) : String :=
  ((destination? b.path.toList).map (·.pathWith (flags p))).getD ""

theorem exists_destination {b : BundledTemplate} (hb : b ∈ templates) :
    ∃ d ∈ destinations, destination? b.path.toList = some d := by
  have hmem : destination? b.path.toList ∈ destinations.map some := by
    rw [← templates_destinations]
    exact List.mem_map_of_mem hb
  obtain ⟨d, hd, heq⟩ := List.mem_map.mp hmem
  exact ⟨d, hd, heq.symm⟩

theorem map_pathOf (p : Project) :
    templates.map (pathOf p) = destinations.map (·.pathWith (flags p)) := by
  have h := congrArg (List.map fun d? => (d?.map (Destination.pathWith · (flags p))).getD "")
    templates_destinations
  rw [List.map_map, List.map_map] at h
  exact h

theorem eq_ok_of_toBool {ε : Type} {x : Except ε Unit} (h : x.toBool = true) : x = .ok () := by
  cases x with
  | ok => rfl
  | error => cases h

/-- Is the path the same without blanks at its ends, and is it safe? -/
def isSound (path : String) : Bool :=
  String.ofList (Text.trim path.toList) == path && (OutputPath.validate path).toBool

theorem destinations_sound : destinations.all (isSound ·.path) = true := by
  decide +kernel

theorem pathOf_sound (p : Project) {b : BundledTemplate} (hb : b ∈ templates) :
    pathOf p b = "" ∨ isSound (pathOf p b) = true := by
  obtain ⟨d, hd, hdestination⟩ := exists_destination hb
  have hpath : pathOf p b = d.pathWith (flags p) := by rw [pathOf, hdestination]; rfl
  rcases d.pathWith_eq (flags p) with hempty | hplain
  · exact Or.inl (hpath.trans hempty)
  · rw [hpath, hplain]
    exact Or.inr (List.all_eq_true.mp destinations_sound d hd)

theorem trimPath_pathOf (a : Assembler) (p : Project) {b : BundledTemplate} (hb : b ∈ templates) :
    a.trimPath (pathOf p b) = pathOf p b := by
  have htrim : String.ofList (Text.trim (pathOf p b).toList) = pathOf p b := by
    rcases pathOf_sound p hb with hempty | hsound
    · rw [hempty]
      rfl
    · exact eq_of_beq (Bool.and_eq_true_iff.mp hsound).1
  rw [Assembler.trimPath, htrim, ite_self]

theorem validate_pathOf (p : Project) {b : BundledTemplate} (hb : b ∈ templates)
    (hne : pathOf p b ≠ "") : OutputPath.validate (pathOf p b) = .ok () := by
  have hsound : isSound (pathOf p b) = true := (pathOf_sound p hb).resolve_left hne
  exact eq_ok_of_toBool (Bool.and_eq_true_iff.mp hsound).2

theorem distinct_pathOf (p : Project) :
    templates.Pairwise fun b b' => pathOf p b = pathOf p b' → pathOf p b = "" := by
  have hpaths : (templates.map (pathOf p)).Pairwise fun s t => s = t → s = "" := by
    rw [map_pathOf, flags]
    cases p.storage.isSome <;> cases p.realTime <;> decide +kernel
  exact List.pairwise_map.mp hpaths

theorem filter_pathOf (p : Project) :
    ((templates.map (pathOf p)).filter fun path => path != "")
      = paths p.storage.isSome p.realTime := by
  rw [map_pathOf, flags]
  cases p.storage.isSome <;> cases p.realTime <;> decide +kernel

/-! ## The files of a project -/

theorem exists_body {b : BundledTemplate} (hb : b ∈ templates) (p : Project) :
    ∃ nodes content, Node.parse Helpers.standard.knows (textOf b.lines) = .ok nodes ∧
      ∀ mode, Renderer.render ⟨.standard, mode⟩ nodes p.toContext = .ok content := by
  have hpasses := (checked_of_mem hb).1
  unfold passes at hpasses
  split at hpasses
  · next nodes hparse =>
      obtain ⟨content, hcontent⟩ :=
        Renderer.steady_render respells_helperNames p.fits_shape hpasses
      refine ⟨nodes, content, ?_, hcontent⟩
      rw [Node.parse_eq_ofChars (toList_textOf b.lines), hparse]
  · cases hpasses

theorem exists_pathNodes {b : BundledTemplate} (hb : b ∈ templates) (p : Project) :
    ∃ nodes, Node.parse Helpers.standard.knows b.path = .ok nodes ∧
      ∀ r : Renderer, r.render nodes p.toContext = .ok (pathOf p b) := by
  obtain ⟨d, hd, hdestination⟩ := exists_destination hb
  have hpath : pathOf p b = d.pathWith (flags p) := by rw [pathOf, hdestination]; rfl
  unfold destination? at hdestination
  split at hdestination
  · next nodes hparse =>
      refine ⟨nodes, by rw [Node.parse_eq_ofChars rfl, hparse], fun r => ?_⟩
      rw [hpath]
      exact Destination.render_ofNodes hdestination (known_flags p hd) r
  · cases hdestination

def entryOf (b : BundledTemplate) : TemplateEntry :=
  TemplateEntry.ofStrings b.path (textOf b.lines) (some b.file) .standard

theorem exists_content (p : Project) {b : BundledTemplate} (hb : b ∈ templates) :
    ∃ content, ∀ a : Assembler, a.Gives p.toContext (entryOf b) ⟨pathOf p b, content⟩ := by
  obtain ⟨pathNodes, hpathNodes, hpath⟩ := exists_pathNodes hb p
  obtain ⟨bodyNodes, content, hbodyNodes, hbody⟩ := exists_body hb p
  refine ⟨content, fun a => ⟨Assembler.parses_of_ok hpathNodes hbodyNodes, ?_, ?_⟩⟩
  · exact ⟨pathNodes, _, hpathNodes, hpath _, (trimPath_pathOf a p hb).symm⟩
  · exact ⟨bodyNodes, hbodyNodes, hbody a.mode⟩

/-- The bundled library has files for every project, the same ones however it is assembled. -/
theorem exists_assemble (p : Project) :
    ∃ files : FileSet, files.paths = paths p.storage.isSome p.realTime ∧
      ∀ a : Assembler, a.assemble templateSet p.toContext = .ok files := by
  have hcontents : ∀ b, ∃ content, b ∈ templates →
      ∀ a : Assembler, a.Gives p.toContext (entryOf b) ⟨pathOf p b, content⟩ := by
    intro b
    by_cases hb : b ∈ templates
    · obtain ⟨content, hcontent⟩ := exists_content p hb
      exact ⟨content, fun _ => hcontent⟩
    · exact ⟨"", fun h => absurd h hb⟩
  obtain ⟨content, hcontent⟩ := Classical.skolem.mp hcontents
  let file (b : BundledTemplate) : GeneratedFile := ⟨pathOf p b, content b⟩
  refine ⟨⟨(templates.map file).filter fun f => f.path != ""⟩, ?_, fun a => ?_⟩
  · rw [FileSet.paths, ← filter_pathOf]
    simp only [List.filter_map, List.map_map]
    rfl
  · have hgives : ∀ b ∈ templates, a.Gives p.toContext (entryOf b) (file b) :=
      fun b hb => hcontent b hb a
    refine Assembler.assemble_of_succeeds ?_ ?_ ?_
    · intro e he
      obtain ⟨b, -, rfl⟩ := List.mem_map.mp he
      exact ⟨Helpers.standard_total, Helpers.standard_total⟩
    · exact Assembler.succeeds_map hgives (fun b hb => validate_pathOf p hb) (distinct_pathOf p)
    · exact Assembler.FilesOf.append_map hgives .nil

end Bundle

end Scaffold
