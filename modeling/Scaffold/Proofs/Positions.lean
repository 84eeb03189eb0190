import Mathlib.Data.List.Induction
import Mathlib.Data.List.Nodup
import Scaffold.Proofs.Assembling
import Scaffold.Proofs.DeclaredErrors

namespace Scaffold

/-!
# Reported positions

The position of every error is that of a tag in the source that the error is
about: tokens start where their spans start in the source, open blocks and
nodes have the positions of the tags that open them, and what goes wrong at
a node is reported with its position. So a position leads to the two braces
that open a tag, and its line and column are those of its offset.
-/

/-! ## Positions in a source -/

/-- The characters of a text behind its last line break. -/
def Text.lastLine (s : List Char) : List Char :=
  (s.reverse.takeWhile (· != '\n')).reverse

/-- The position is that of two opening braces in the source. -/
structure Position.LeadsToTag (p : Position) (source : String) : Prop where
  opens : ['{', '{'] <+: source.toList.drop p.offset
  line : p.line = 1 + (source.toList.take p.offset).count '\n'
  column : p.column = 1 + (Text.lastLine (source.toList.take p.offset)).length

namespace Position

/-- Lines are counted by line breaks, and columns from the last one. -/
theorem advance_start (s : List Char) :
    start.advance s = ⟨s.length, 1 + s.count '\n', 1 + (Text.lastLine s).length⟩ := by
  induction s using List.reverseRecOn with
  | nil => rfl
  | append_singleton s c ih =>
      rw [advance_append, ih, advance_cons, advance_nil, step]
      by_cases hc : c = '\n'
      · subst hc
        simp [Text.lastLine, Nat.add_assoc]
      · simp [Text.lastLine, hc, Nat.add_assoc]

/-- A position is found again behind the characters in front of it. -/
theorem leadsToTag_advance {source : String} {before rest : List Char}
    (hsource : source.toList = before ++ rest) (hopen : ['{', '{'] <+: rest) :
    (start.advance before).LeadsToTag source := by
  have hadvance := advance_start before
  have htake : source.toList.take before.length = before := by
    rw [hsource, List.take_left]
  have hdrop : source.toList.drop before.length = rest := by
    rw [hsource, List.drop_left]
  rw [hadvance]
  exact ⟨hdrop.symm ▸ hopen, by rw [htake], by rw [htake]⟩

end Position

/-! ## Tokens -/

namespace Span

/-- The source of what is being read, from its opening mark on. -/
def Reading.opened : Reading → List Char
  | .text read => read.reverse
  | .tag read => '{' :: '{' :: read.reverse
  | .longComment read => '{' :: '{' :: '!' :: '-' :: '-' :: read.reverse

theorem flush_source (read : List Char) : (flush read).flatMap source = read.reverse := by
  unfold flush
  split
  · next hempty => rw [List.isEmpty_iff.mp hempty]; rfl
  · simp [source]

/-- The spans give back the source up to what is left open, which begins with two braces. -/
theorem exists_rest_of_scanFrom (r : Reading) (src : List Char) {spans : List Span}
    {open? : Option Unclosed} (h : scanFrom r src = (spans, open?)) :
    ∃ rest, r.opened ++ src = spans.flatMap source ++ rest ∧
      (open?.isSome = true → ['{', '{'] <+: rest) := by
  fun_induction scanFrom r src generalizing spans open? with
  | case1 read =>
      cases h
      exact ⟨[], by simp [Reading.opened, flush_source], fun h => absurd h Bool.false_ne_true⟩
  | case2 read rest more open? hmore ih =>
      cases h
      obtain ⟨left, hsource, hleft⟩ := ih hmore
      refine ⟨left, ?_, hleft⟩
      simpa [Reading.opened, flush_source] using hsource
  | case3 read rest hshort more open? hmore ih =>
      cases h
      obtain ⟨left, hsource, hleft⟩ := ih hmore
      refine ⟨left, ?_, hleft⟩
      simpa [Reading.opened, flush_source] using hsource
  | case4 read c rest hlong hopen ih =>
      obtain ⟨left, hsource, hleft⟩ := ih h
      exact ⟨left, by simpa [Reading.opened] using hsource, hleft⟩
  | case5 read =>
      cases h
      exact ⟨_, rfl, fun _ => ⟨_, rfl⟩⟩
  | case6 read rest more open? hmore ih =>
      cases h
      obtain ⟨left, hsource, hleft⟩ := ih hmore
      refine ⟨left, ?_, hleft⟩
      have hrest : rest = more.flatMap source ++ left := by simpa [Reading.opened] using hsource
      simp [Reading.opened, source, hrest]
  | case7 read c rest hclose ih =>
      obtain ⟨left, hsource, hleft⟩ := ih h
      exact ⟨left, by simpa [Reading.opened] using hsource, hleft⟩
  | case8 read =>
      cases h
      exact ⟨_, rfl, fun _ => ⟨_, rfl⟩⟩
  | case9 read rest more open? hmore ih =>
      cases h
      obtain ⟨left, hsource, hleft⟩ := ih hmore
      refine ⟨left, ?_, hleft⟩
      have hrest : rest = more.flatMap source ++ left := by simpa [Reading.opened] using hsource
      simp [Reading.opened, source, hrest]
  | case10 read c rest hclose ih =>
      obtain ⟨left, hsource, hleft⟩ := ih h
      exact ⟨left, by simpa [Reading.opened] using hsource, hleft⟩

end Span

namespace Token

/-- A tag token starts where its span does; the tokens in front of it are those of the spans there. -/
theorem exists_of_place {spans : List Span} {p pos : Position} {content : List Char}
    {before after : List PlacedToken} (h : place p spans = before ++ (.tag content, pos) :: after) :
    ∃ front inner back, spans = front ++ .tag inner :: back ∧ place p front = before ∧
      ofSpan? (.tag inner) = some (.tag content) ∧ pos = p.advance (front.flatMap Span.source) := by
  induction spans generalizing p before with
  | nil => simp [place] at h
  | cons span spans ih =>
      rw [place] at h
      cases htoken : ofSpan? span with
      | none =>
          simp only [htoken] at h
          obtain ⟨front, inner, back, rfl, rfl, hinner, rfl⟩ := ih h
          exact ⟨span :: front, inner, back, rfl, by simp [place, htoken], hinner, by simp⟩
      | some token =>
          simp only [htoken] at h
          cases before with
          | nil =>
              cases h
              cases span with
              | tag inner => exact ⟨[], inner, spans, rfl, rfl, htoken, rfl⟩
              | text | longComment => cases htoken
          | cons first before =>
              obtain ⟨rfl, hrest⟩ := List.cons.inj h
              obtain ⟨front, inner, back, rfl, rfl, hinner, rfl⟩ := ih hrest
              exact ⟨span :: front, inner, back, rfl, by simp [place, htoken], hinner, by simp⟩

theorem leadsToTag_of_mem {source : String} {content : List Char} {pos : Position}
    (h : (.tag content, pos) ∈ (tokenize source).tokens) : pos.LeadsToTag source := by
  obtain ⟨rest, hsource, -⟩ := Span.exists_rest_of_scanFrom (.text []) source.toList rfl
  obtain ⟨_, _, htokens⟩ := List.append_of_mem h
  obtain ⟨before, inner, after, hspans, -, -, rfl⟩ := exists_of_place htokens
  -- the spans in front of the tag and the tag itself give back a prefix of the source
  have hall : source.toList = before.flatMap Span.source ++
      ((Span.tag inner).source ++ (after.flatMap Span.source ++ rest)) := by
    have hscan : (Span.scanFrom (.text []) source.toList).1 = before ++ .tag inner :: after := hspans
    rw [hscan] at hsource
    simpa [Span.Reading.opened] using hsource
  exact Position.leadsToTag_advance hall
    ((Span.open_prefix_source id).trans (List.prefix_append _ _))

theorem leadsToTag_of_unclosed {source : String} {what : Unclosed} {pos : Position}
    (h : (tokenize source).unclosed = some (what, pos)) : pos.LeadsToTag source := by
  obtain ⟨rest, hsource, hrest⟩ := Span.exists_rest_of_scanFrom (.text []) source.toList rfl
  obtain ⟨open?, hopen, heq⟩ := Option.map_eq_some_iff.mp h
  cases heq
  have hsome : (Span.scanFrom (.text []) source.toList).2.isSome = true :=
    Option.isSome_of_eq_some hopen
  exact Position.leadsToTag_advance (by simpa [Span.Reading.opened] using hsource) (hrest hsome)

end Token

/-! ## Parse errors -/

variable {known : String → Bool}

/-- One of the tags among the tokens has this position. -/
def TagAt (tokens : List PlacedToken) (pos : Position) : Prop :=
  ∃ content, (.tag content, pos) ∈ tokens

theorem TagAt.mono {tokens more : List PlacedToken} {pos : Position} (h : TagAt tokens pos)
    (hsub : tokens ⊆ more) : TagAt more pos :=
  h.imp fun _ hmem => hsub hmem

theorem TagAt.leadsToTag {source : String} {pos : Position}
    (h : TagAt (Token.tokenize source).tokens pos) : pos.LeadsToTag source := by
  obtain ⟨content, hmem⟩ := h
  exact Token.leadsToTag_of_mem hmem

/-- An open block has the position of the tag that opens it. -/
theorem Opens.tagAt {tokens : List PlacedToken} {blocks : List OpenBlock}
    (h : Opens known tokens blocks) : ∀ b ∈ blocks, TagAt tokens b.position := by
  induction h with
  | closed => simp
  | opening _ _ _ ih =>
      intro b hb
      rcases List.mem_cons.mp hb with rfl | hb
      · exact ⟨_, List.mem_append_right _ List.mem_cons_self⟩
      · exact (ih b hb).mono (List.subset_append_left _ _)
  | orElse _ _ _ ih =>
      obtain ⟨hblock, hblocks⟩ := List.forall_mem_cons.mp ih
      intro b hb
      rcases List.mem_cons.mp hb with rfl | hb
      · exact hblock.mono (List.subset_append_left _ _)
      · exact (hblocks b hb).mono (List.subset_append_left _ _)

theorem FirstFlaw.leadsToTag {source : String} {kind : FlawKind} {e : ParseError}
    (h : FirstFlaw known (Token.tokenize source) kind e) : e.position.LeadsToTag source := by
  cases h with
  | @tag before after _ content pos _ _ htokens _ _ _ _ =>
      refine TagAt.leadsToTag ⟨content, ?_⟩
      rw [htokens]
      exact List.mem_append_right _ List.mem_cons_self
  | unclosed _ hopen => exact Token.leadsToTag_of_unclosed hopen
  | unclosedBlock hblocks _ => exact (hblocks.tagAt _ List.mem_cons_self).leadsToTag

theorem ParseError.leadsToTag {source : String} {e : ParseError}
    (h : Node.parse known source = .error e) : e.position.LeadsToTag source :=
  (TokenStream.parse_eq_error_iff.mp h).leadsToTag

/-! ## Nodes -/

namespace Node

theorem mem_subnodesAll_of_glue_text {s : String} {pos : Position} {rest : List Node} {node : Node}
    (h : node ∈ subnodesAll (glue (.text s pos) rest)) (htag : node.IsTag) :
    node ∈ subnodesAll rest := by
  have htext {t : String} {q : Position} (h : node = .text t q) : False := by
    subst h
    exact htag
  cases rest with
  | nil => exact (htext (List.mem_singleton.mp h)).elim
  | cons first rest =>
      cases first with
      | text t q =>
          exact List.mem_cons_of_mem _ ((List.mem_cons.mp h).resolve_left fun heq => htext heq)
      | interpolation | conditional | loop =>
          exact (List.mem_cons.mp h).resolve_left fun heq => htext heq

/-- A node that is no text has the position of the tag that it is read from. -/
theorem tagAt_of_derives {tokens : List PlacedToken} {tree : List Node}
    (h : Derives known tokens tree) :
    ∀ node ∈ subnodesAll (joinedAll tree), node.IsTag → TagAt tokens node.position := by
  induction h with
  | nil => simp [joinedAll, subnodesAll]
  | text _ ih =>
      intro node hnode htag
      exact (ih node (mem_subnodesAll_of_glue_text hnode htag) htag).mono (by simp)
  | interpolation _ _ ih =>
      intro node hnode htag
      rcases List.mem_cons.mp hnode with rfl | hnode
      · exact ⟨_, List.mem_cons_self⟩
      · exact (ih node hnode htag).mono (by simp)
  | conditional _ _ _ _ ihbody ihrest =>
      intro node hnode htag
      simp only [joinedAll, joined, joinedBranch, glue, subnodesAll, subnodes, subnodesBranch,
        List.append_nil, List.cons_append, List.mem_cons, List.mem_append] at hnode
      rcases hnode with rfl | hnode | hnode
      · exact ⟨_, List.mem_cons_self⟩
      · exact (ihbody node hnode htag).mono fun t ht => by simp [ht]
      · exact (ihrest node hnode htag).mono fun t ht => by simp [ht]
  | conditionalElse _ _ _ _ _ _ ihbody ihotherwise ihrest =>
      intro node hnode htag
      simp only [joinedAll, joined, joinedBranch, glue, subnodesAll, subnodes, subnodesBranch,
        List.cons_append, List.mem_cons, List.mem_append] at hnode
      rcases hnode with rfl | (hnode | hnode) | hnode
      · exact ⟨_, List.mem_cons_self⟩
      · exact (ihbody node hnode htag).mono fun t ht => by simp [ht]
      · exact (ihotherwise node hnode htag).mono fun t ht => by simp [ht]
      · exact (ihrest node hnode htag).mono fun t ht => by simp [ht]
  | loop _ _ _ _ ihbody ihrest =>
      intro node hnode htag
      simp only [joinedAll, joined, glue, subnodesAll, subnodes, List.cons_append, List.mem_cons,
        List.mem_append] at hnode
      rcases hnode with rfl | hnode | hnode
      · exact ⟨_, List.mem_cons_self⟩
      · exact (ihbody node hnode htag).mono fun t ht => by simp [ht]
      · exact (ihrest node hnode htag).mono fun t ht => by simp [ht]

theorem leadsToTag_of_parse {source : String} {nodes : List Node}
    (h : parse known source = .ok nodes) {node : Node} (hnode : node ∈ subnodesAll nodes)
    (htag : node.IsTag) : node.position.LeadsToTag source := by
  obtain ⟨-, tree, htree, rfl⟩ := TokenStream.parse_eq_ok_iff.mp h
  exact (tagAt_of_derives htree node hnode htag).leadsToTag

end Node

/-! ## Render errors -/

/-- What goes wrong is reported at this position. -/
def Rendered.FailsAt {α : Type} (pos : Position) (x : Rendered α) : Prop :=
  ∀ e, x = .error (.error e) → e.position = pos

namespace Rendered

variable {α β : Type} {pos : Position}

theorem failsAt_ok (v : α) : FailsAt pos (.ok v) := nofun

theorem failsAt_fault (f : Fault) : FailsAt (α := α) pos (.error (.fault f)) := nofun

theorem failsAt_error (trouble : RenderTrouble) (path : Path) :
    FailsAt (α := α) pos (.error (.error ⟨trouble, path, pos⟩)) := by
  intro e h
  cases h
  rfl

theorem FailsAt.bind {x : Rendered α} {g : α → Rendered β} (hx : FailsAt pos x)
    (hg : ∀ v, FailsAt pos (g v)) : FailsAt pos (x >>= g) := by
  cases x with
  | ok v => exact hg v
  | error failure =>
      intro e h
      cases h
      exact hx e rfl

theorem failsAt_foldlM {g : β → α → Rendered β} (hg : ∀ w v, FailsAt pos (g w v)) (list : List α)
    (w : β) : FailsAt pos (list.foldlM g w) := by
  induction list generalizing w with
  | nil => exact failsAt_ok w
  | cons v list ih =>
      rw [List.foldlM_cons]
      exact (hg w v).bind ih

end Rendered

namespace Renderer

open Rendered

variable {r : Renderer} {pos : Position}

theorem failsAt_resolve (s : Scope) (path : Path) : FailsAt pos (resolve s path) := by
  unfold resolve
  split
  · exact failsAt_ok _
  · exact failsAt_fault _

theorem failsAt_applyHelper (path : Path) (name : String) (v : Value) :
    FailsAt pos (r.applyHelper path pos name v) := by
  unfold applyHelper
  dsimp only
  split
  · exact failsAt_error _ _
  · split
    · exact failsAt_error _ _
    · split
      · exact failsAt_error _ _
      · split
        · exact failsAt_fault _
        · split
          · exact failsAt_ok _
          · exact failsAt_error _ _

theorem failsAt_interpolate (s : Scope) (path : Path) (helpers : List String) :
    FailsAt pos (r.interpolate s path helpers pos) := by
  refine (failsAt_resolve s path).bind fun found => ?_
  cases found with
  | none =>
      dsimp only
      split
      · exact failsAt_error _ _
      · exact failsAt_ok _
  | some v =>
      refine (failsAt_foldlM (fun w name => failsAt_applyHelper path name w) _ v).bind fun w => ?_
      split
      · exact failsAt_ok _
      · exact failsAt_error _ _

theorem failsAt_loopScopes (s : Scope) (path : Path) : FailsAt pos (r.loopScopes s path pos) := by
  refine (failsAt_resolve s path).bind fun found => ?_
  split
  · exact failsAt_ok _
  · split
    · exact failsAt_ok _
    · exact failsAt_error _ _

theorem failsAt_perform (v : Visit) : FailsAt v.node.position (r.perform v) := by
  obtain ⟨node, s⟩ := v
  cases node with
  | text t pos => exact failsAt_ok t
  | interpolation path helpers pos => exact failsAt_interpolate s path helpers
  | conditional negated path body otherwise pos =>
      rw [perform, map_eq_pure_bind]
      exact (failsAt_resolve s path).bind fun found => failsAt_ok _
  | loop path body pos =>
      rw [perform, map_eq_pure_bind]
      exact (failsAt_loopScopes s path).bind fun scopes => failsAt_ok _

/-- What goes wrong in a render goes wrong at a node that is no text. -/
theorem exists_node_of_render {nodes : List Node} {c : Context} {e : RenderError}
    (h : r.render nodes c = .error (.error e)) :
    ∃ node ∈ Node.subnodesAll nodes, node.IsTag ∧ e.position = node.position := by
  rw [render, renderNodes_eq_run, run_eq_error_iff] at h
  obtain ⟨before, ⟨node, s⟩, hstops⟩ := h
  refine ⟨node, Node.node_mem_subnodesAll hstops.mem, ?_, failsAt_perform _ e hstops.fails⟩
  cases node with
  | text t pos => cases hstops.fails
  | interpolation | conditional | loop => trivial

end Renderer

theorem RenderError.leadsToTag {source : String} {nodes : List Node} {r : Renderer} {c : Context}
    {e : RenderError} (hparse : Node.parse known source = .ok nodes)
    (h : r.render nodes c = .error (.error e)) : e.position.LeadsToTag source := by
  obtain ⟨node, hnode, htag, hposition⟩ := Renderer.exists_node_of_render h
  rw [hposition]
  exact Node.leadsToTag_of_parse hparse hnode htag

/-! ## Reports -/

/-- The template of a part. -/
def TemplateEntry.template (e : TemplateEntry) : TemplatePart → Template
  | .path => e.path
  | .body => e.body

/-- The kind is one of parse or of render errors. -/
def ReportEntry.OfTemplate (entry : ReportEntry) : Prop :=
  (∃ k : FlawKind, entry.kind = k.name) ∨ ∃ k : RenderErrorKind, entry.kind = k.name

/-- What a report entry says of the place of the failure in a template entry. -/
structure ReportEntry.Locates (entry : ReportEntry) (e : TemplateEntry) : Prop where
  file : entry.file = e.identifier
  position_iff : entry.position.isSome = true ↔ entry.OfTemplate
  otherwise : entry.position = none →
    entry.kind = "PathSecurityError" ∨ entry.kind = "DuplicatePath"
  leads : ∃ part : TemplatePart, entry.part = part.name ∧
    ∀ p, entry.position = some p → p.LeadsToTag (e.template part).source

namespace Assembler

variable {a : Assembler} {c : Context} {e : TemplateEntry} {entry : ReportEntry}

theorem locates_ofParseError {part : TemplatePart} {err : ParseError}
    (h : (e.template part).parse = .error err) :
    (ReportEntry.ofParseError e.identifier part err).Locates e where
  file := rfl
  position_iff := iff_of_true rfl (.inl ⟨_, rfl⟩)
  otherwise := nofun
  leads := by
    refine ⟨part, rfl, fun p hp => ?_⟩
    cases hp
    exact ParseError.leadsToTag h

theorem locates_ofRenderError (part : TemplatePart) {nodes : List Node} {err : RenderError}
    (hparse : (e.template part).parse = .ok nodes)
    (h : (a.renderer (e.template part)).render nodes c = .error (.error err)) :
    (ReportEntry.ofRenderError e.identifier part err).Locates e where
  file := rfl
  position_iff := iff_of_true rfl (.inr ⟨_, rfl⟩)
  otherwise := nofun
  leads := by
    refine ⟨part, rfl, fun p hp => ?_⟩
    cases hp
    exact RenderError.leadsToTag hparse h

/-- No parse or render error has the kind of a path that is refused. -/
theorem not_ofTemplate (h : entry.kind = "PathSecurityError" ∨ entry.kind = "DuplicatePath") :
    ¬entry.OfTemplate := by
  rintro (⟨k, hk⟩ | ⟨k, hk⟩)
  all_goals
    rw [hk] at h
    revert h
    cases k <;> decide

theorem locates_of_refused (hfile : entry.file = e.identifier)
    (hkind : entry.kind = "PathSecurityError" ∨ entry.kind = "DuplicatePath")
    (hposition : entry.position = none) (hpart : entry.part = TemplatePart.path.name) :
    entry.Locates e where
  file := hfile
  position_iff := by
    rw [hposition]
    exact iff_of_false nofun (not_ofTemplate hkind)
  otherwise _ := hkind
  leads := by
    refine ⟨.path, hpart, fun p hp => ?_⟩
    rw [hposition] at hp
    cases hp

theorem locates_of_parseFailures (part : TemplatePart)
    (h : entry ∈ parseFailures e.identifier part (e.template part).parse) : entry.Locates e := by
  cases hparse : (e.template part).parse with
  | ok nodes =>
      rw [hparse] at h
      cases h
  | error err =>
      rw [hparse] at h
      cases List.mem_singleton.mp h
      exact locates_ofParseError hparse

theorem Charged.locates {before : List TemplateEntry} {own : List ReportEntry}
    (h : Charged a c before e own) (hentry : entry ∈ own) : entry.Locates e := by
  cases h with
  | own h =>
      cases h with
      | parse _ =>
          rcases List.mem_append.mp hentry with hentry | hentry
          · exact locates_of_parseFailures .path hentry
          · exact locates_of_parseFailures .body hentry
      | path _ hparse hrender =>
          cases List.mem_singleton.mp hentry
          exact locates_ofRenderError .path hparse hrender
      | danger =>
          cases List.mem_singleton.mp hentry
          exact locates_of_refused rfl (.inl rfl) rfl rfl
      | body _ _ _ hparse hrender =>
          cases List.mem_singleton.mp hentry
          exact locates_ofRenderError .body hparse hrender
  | skipped | fresh => cases hentry
  | duplicate =>
      cases List.mem_singleton.mp hentry
      exact locates_of_refused rfl (.inr rfl) rfl rfl

theorem ReportOf.locates {entries : List TemplateEntry} {report : List ReportEntry}
    (h : ReportOf a c entries report) (hentry : entry ∈ report) :
    ∃ e ∈ entries, entry.Locates e := by
  induction h with
  | nil => cases hentry
  | concat _ hown ih =>
      rcases List.mem_append.mp hentry with hentry | hentry
      · obtain ⟨e, he, hlocates⟩ := ih hentry
        exact ⟨e, List.mem_append_left _ he, hlocates⟩
      · exact ⟨_, List.mem_append_right _ (List.mem_singleton_self _), hown.locates hentry⟩

theorem reportOf_of_assemble {set : TemplateSet} {report : Report}
    (h : a.assemble set c = .error (.report report)) :
    ReportOf a c set.entries report.entries := by
  cases hrun : set.entries.mapM (a.process c) with
  | error f =>
      rw [assemble, hrun] at h
      cases h
  | ok outcomes =>
      obtain ⟨done, hcollects, hassemble⟩ := assemble_of_mapM hrun
      rw [hassemble] at h
      split at h
      · cases h
      · cases h
        exact hcollects.report

end Assembler

/-- A concurrent run reports what assembly reports. -/
theorem Run.report_of_assemble {r : Run} {a : Assembler} {set : TemplateSet} {c : Context}
    {report : Report} (h : r.assemble a set c = .error (.assembly (.report report))) :
    a.assemble set c = .error (.report report) := by
  unfold Run.assemble at h
  split at h
  · split at h
    · split at h
      · cases h
      · cases h
    · cases hassemble : a.assemble set c with
      | ok files =>
          rw [hassemble] at h
          cases h
      | error failure =>
          rw [hassemble] at h
          cases h
          rfl
  · cases h

/-- Every report entry locates its failure in the one template entry that it names: there is a
position exactly for parse and render errors, and it leads to a tag in the source of the part. So
does the position of every parse error and of every render error of a parsed source. -/
theorem reported_positions_lead_to_tags :
    (∀ (a : Assembler) (set : TemplateSet) (c : Context) (report : Report),
      (set.entries.map (·.identifier)).Nodup →
      (a.assemble set c = .error (.report report) ∨
        ∃ r : Run, r.assemble a set c = .error (.assembly (.report report))) →
      ∀ entry ∈ report.entries, ∃ e ∈ set.entries, entry.Locates e ∧
        ∀ e' ∈ set.entries, e'.identifier = entry.file → e' = e) ∧
    (∀ (known : String → Bool) (source : String) (e : ParseError),
      Node.parse known source = .error e → e.position.LeadsToTag source) ∧
    ∀ (known : String → Bool) (source : String) (nodes : List Node) (r : Renderer) (c : Context)
      (e : RenderError), Node.parse known source = .ok nodes →
      r.render nodes c = .error (.error e) → e.position.LeadsToTag source := by
  refine ⟨fun a set c report hdistinct hreport entry hentry => ?_,
    fun known source e h => ParseError.leadsToTag h,
    fun known source nodes r c e hparse h => RenderError.leadsToTag hparse h⟩
  have hassemble : a.assemble set c = .error (.report report) := by
    rcases hreport with h | ⟨r, h⟩
    · exact h
    · exact Run.report_of_assemble h
  obtain ⟨e, he, hlocates⟩ := (Assembler.reportOf_of_assemble hassemble).locates hentry
  refine ⟨e, he, hlocates, fun e' he' hfile => ?_⟩
  exact List.inj_on_of_nodup_map hdistinct he' he (hfile.trans hlocates.file)

/-- A block that is never closed on a second line, a path that leaves the output directory, and a
variable that is missing behind a comment. -/
def flawedExample : TemplateSet :=
  .ofPairs [("a", "x\n \x7b\x7b#if y\x7d\x7d"), ("../b", ""),
    ("c", "\x7b\x7b! no\ntag \x7d\x7d \x7b\x7bz\x7d\x7d")] .standard

theorem reported_positions_lead_to_tags_example :
    ∃ report : Report, (Assembler.mk .strict true).assemble flawedExample ⟨[]⟩
        = .error (.report report) ∧
      report.entries.map (fun entry => (entry.kind, entry.position)) =
        [("UnterminatedBlock", some ⟨3, 2, 2⟩), ("PathSecurityError", none),
          ("MissingVariable", some ⟨14, 2, 8⟩)] ∧
      (∀ entry ∈ report.entries, ∃ e ∈ flawedExample.entries, entry.Locates e) ∧
      (∃ e, Node.parse Helpers.standard.knows "x\n \x7b\x7b#if y\x7d\x7d" = .error e ∧
        e.position.LeadsToTag "x\n \x7b\x7b#if y\x7d\x7d") ∧
      ∃ e, Renderer.render ⟨.standard, .strict⟩ [.interpolation ⟨"z", []⟩ [] .start] ⟨[]⟩
          = .error (.error e) ∧
        e.position.LeadsToTag "\x7b\x7bz\x7d\x7d" := by
  obtain ⟨hreports, hparses, hrenders⟩ := reported_positions_lead_to_tags
  have hplaces : (match (Assembler.mk .strict true).assemble flawedExample ⟨[]⟩ with
      | .error (.report report) => report.entries.map fun entry => (entry.kind, entry.position)
      | _ => []) = [("UnterminatedBlock", some ⟨3, 2, 2⟩), ("PathSecurityError", none),
        ("MissingVariable", some ⟨14, 2, 8⟩)] := by decide +kernel
  obtain ⟨report, hassemble⟩ : ∃ report : Report,
      (Assembler.mk .strict true).assemble flawedExample ⟨[]⟩ = .error (.report report) := by
    split at hplaces
    · next report hassemble => exact ⟨report, hassemble⟩
    · cases hplaces
  rw [hassemble] at hplaces
  have hdistinct : (flawedExample.entries.map (·.identifier)).Nodup := by decide +kernel
  have hparse : Node.parse Helpers.standard.knows "\x7b\x7bz\x7d\x7d"
      = .ok [.interpolation ⟨"z", []⟩ [] .start] := by rfl
  refine ⟨report, hassemble, hplaces, fun entry hentry => ?_,
    ⟨_, rfl, hparses Helpers.standard.knows _ _ rfl⟩,
    ⟨_, rfl, hrenders Helpers.standard.knows _ _ ⟨.standard, .strict⟩ ⟨[]⟩ _ hparse rfl⟩⟩
  obtain ⟨e, he, hlocates, -⟩ :=
    hreports ⟨.strict, true⟩ flawedExample ⟨[]⟩ report hdistinct (.inl hassemble) entry hentry
  exact ⟨e, he, hlocates⟩

end Scaffold
