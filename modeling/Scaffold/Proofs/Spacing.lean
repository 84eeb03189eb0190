import Mathlib.Data.List.Forall2
import Scaffold.Proofs.Concatenation
import Scaffold.Proofs.TagWords

namespace Scaffold

/-!
# Blanks in the tags of a source

A source whose tags have other runs of blanks in them falls into the same
texts, comments and tags, and each tag has the same words. So it is parsed
to the same template, unless a blank that is no space stands behind the
keyword of a block: then it is refused for the first such tag.
-/

/-! ## Sources -/

namespace Span

/-- The span with other runs of blanks in it if it is a tag and no comment. -/
inductive Respaced : Span → Span → Prop
  | same (span : Span) : Respaced span span
  | tag {inner inner' : List Char} (hcode : (Text.trim inner).head? ≠ some '!')
      (h : Relation.ReflTransGen Tag.Respaces inner inner') : Respaced (.tag inner) (.tag inner')

variable {spans spans' : List Span} {known : String → Bool}

/-- Every tag of the spans that is no comment says something. -/
def Tagged (known : String → Bool) (spans : List Span) : Prop :=
  ∀ inner, .tag inner ∈ spans → (Text.trim inner).head? ≠ some '!' →
    ∃ tag, Tag.Says known (Tag.parts (Text.trim inner)).1 (Tag.parts (Text.trim inner)).2 tag

theorem Respaced.isText_iff {span span' : Span} (h : Respaced span span') :
    span'.IsText ↔ span.IsText := by
  cases h with
  | same => exact Iff.rfl
  | tag => exact Iff.rfl

theorem Canonical.respaced (h : Canonical spans) (hspans : List.Forall₂ Respaced spans spans')
    (htagged : Tagged known spans) : Canonical spans' := by
  induction h generalizing spans' with
  | nil =>
      cases hspans
      exact .nil
  | @text chars rest hne hclear hnext hrest ih =>
      obtain ⟨span', rest', hspan, hrest', rfl⟩ := List.forall₂_cons_left_iff.mp hspans
      cases hspan
      have hrest'' := ih hrest' fun inner hinner => htagged inner (List.mem_cons_of_mem _ hinner)
      have hnext' : ∀ span ∈ rest'.head?, ¬span.IsText := by
        cases hrest' with
        | nil => simp
        | cons hspan =>
            rintro _ ⟨⟩
            exact fun htext => hnext _ rfl (hspan.isText_iff.mp htext)
      refine .text hne ?_ hnext' hrest''
      rw [Text.clear_text_iff (source_eq_nil_or_open hnext')]
      rw [Text.clear_text_iff (source_eq_nil_or_open hnext)] at hclear
      refine ⟨hclear.1, fun hne' => hclear.2 (source_ne_nil hnext ?_)⟩
      rintro rfl
      cases hrest'
      exact hne' rfl
  | @tag inner rest hshort hclear hrest ih =>
      obtain ⟨span', rest', hspan, hrest', rfl⟩ := List.forall₂_cons_left_iff.mp hspans
      have hrest'' := ih hrest' fun inner hinner => htagged inner (List.mem_cons_of_mem _ hinner)
      cases hspan with
      | same => exact .tag hshort (Text.Clear.of_mark ['}', '}'] hclear _) hrest''
      | @tag _ inner' hcode hinner =>
          obtain ⟨tag, hsays⟩ := htagged inner List.mem_cons_self hcode
          have hkept := Tag.kept_of_respaces hinner
          rw [hkept.parts] at hsays
          refine .tag ?_ ?_ hrest''
          · rintro ⟨after, rfl⟩
            apply hcode
            rw [← hkept.head?]
            exact Text.head?_trim_cons (by decide) _
          · refine (Text.clear_double_iff '}' _ _).mpr ⟨fun hcloses => ?_, ?_⟩
            · exact ((Text.clear_double_iff '}' _ _).mp hclear).1 (hkept.closes hcloses)
            · exact fun hlast => hsays.getLast?_ne (Text.getLast?_trim hlast (by decide))
  | @longComment inner rest hclear hrest ih =>
      obtain ⟨span', rest', hspan, hrest', rfl⟩ := List.forall₂_cons_left_iff.mp hspans
      have hrest'' := ih hrest' fun inner hinner => htagged inner (List.mem_cons_of_mem _ hinner)
      cases hspan
      exact .longComment (Text.Clear.of_mark ['-', '-', '}', '}'] hclear _) hrest''

end Span

namespace Token

open Tag

variable {known : String → Bool}

/-- The same texts, and tags of the same words. -/
inductive Alike : Token → Token → Prop
  | text (s : String) : Alike (.text s) (.text s)
  | tag {content content' : List Char} (htrimmed : Text.Trimmed content)
      (htrimmed' : Text.Trimmed content') (h : parts content = parts content') :
      Alike (.tag content) (.tag content')

/-- If the token opens a block, a space ends the keyword. -/
def Spaced : Token → Prop
  | .text _ => True
  | .tag content => SpaceEndsKeyword content

theorem ofSpan?_tag {inner : List Char} (h : (Text.trim inner).head? ≠ some '!') :
    ofSpan? (.tag inner) = some (.tag (Text.trim inner)) := by
  have hcode : ((Text.trim inner).head? == some '!') = false := by simpa using h
  simp [ofSpan?, hcode]

theorem alike_of_ofSpan? {span : Span} {token : Token} (h : ofSpan? span = some token) :
    Alike token token := by
  cases span with
  | text chars =>
      cases h
      exact .text _
  | tag inner =>
      rw [ofSpan?] at h
      split at h
      · cases h
      · cases h
        exact .tag (Text.trimmed_trim inner) (Text.trimmed_trim inner) rfl
  | longComment => cases h

/-- Other blanks in the tags of a source change its tokens in their blanks only. -/
theorem place_respaced {spans spans' : List Span} (h : List.Forall₂ Span.Respaced spans spans')
    (p p' : Position) :
    List.Forall₂ (fun t t' => Alike t.1 t'.1) (place p spans) (place p' spans') := by
  induction h generalizing p p' with
  | nil => exact .nil
  | @cons span span' spans spans' hspan _ ih =>
      rw [place, place]
      have hrest := ih (p.advance span.source) (p'.advance span'.source)
      cases hspan with
      | same =>
          cases htoken : ofSpan? span with
          | none => exact hrest
          | some token => exact .cons (alike_of_ofSpan? htoken) hrest
      | tag hcode hinner =>
          have hkept := kept_of_respaces hinner
          rw [ofSpan?_tag hcode, ofSpan?_tag (hkept.head? ▸ hcode)]
          exact .cons (.tag (Text.trimmed_trim _) (Text.trimmed_trim _) hkept.parts) hrest

theorem mem_place {spans : List Span} {inner : List Char} (h : .tag inner ∈ spans)
    (hcode : (Text.trim inner).head? ≠ some '!') (p : Position) :
    ∃ pos, (.tag (Text.trim inner), pos) ∈ place p spans := by
  induction spans generalizing p with
  | nil => cases h
  | cons span spans ih =>
      rw [place]
      rcases List.mem_cons.mp h with rfl | h
      · rw [ofSpan?_tag hcode]
        exact ⟨p, List.mem_cons_self⟩
      · obtain ⟨pos, hpos⟩ := ih h (p.advance span.source)
        refine ⟨pos, ?_⟩
        cases ofSpan? span with
        | none => exact hpos
        | some token => exact List.mem_cons_of_mem _ hpos

theorem exists_tag_of_mem_place {spans : List Span} {content : List Char} {p pos : Position}
    (h : (.tag content, pos) ∈ place p spans) :
    ∃ inner, .tag inner ∈ spans ∧ content = Text.trim inner := by
  induction spans generalizing p with
  | nil => cases h
  | cons span spans ih =>
      have hrest (h : (.tag content, pos) ∈ place (p.advance span.source) spans) :
          ∃ inner, .tag inner ∈ span :: spans ∧ content = Text.trim inner := by
        obtain ⟨inner, hinner, hcontent⟩ := ih h
        exact ⟨inner, List.mem_cons_of_mem _ hinner, hcontent⟩
      rw [place] at h
      cases htoken : ofSpan? span with
      | none => exact hrest (by simpa only [htoken] using h)
      | some token =>
          simp only [htoken] at h
          rcases List.mem_cons.mp h with heq | h
          · cases heq
            cases span with
            | tag inner =>
                rw [ofSpan?] at htoken
                split at htoken
                · cases htoken
                · cases htoken
                  exact ⟨inner, List.mem_cons_self, rfl⟩
            | text | longComment => cases htoken
          · exact hrest h

/-- A comment opens no block, so only the tags count that are read. -/
theorem spaced_place_iff {spans : List Span} {p : Position} :
    (∀ t ∈ place p spans, t.1.Spaced) ↔
      ∀ inner, .tag inner ∈ spans → SpaceEndsKeyword (Text.trim inner) := by
  constructor
  · intro hall inner hinner
    by_cases hcode : (Text.trim inner).head? = some '!'
    · intro hhead
      cases hcode.symm.trans hhead
    · obtain ⟨pos, hpos⟩ := mem_place hinner hcode p
      exact hall _ hpos
  · rintro hall ⟨token, pos⟩ hmem
    cases token with
    | text s => exact trivial
    | tag content =>
        obtain ⟨inner, hinner, rfl⟩ := exists_tag_of_mem_place hmem
        exact hall inner hinner

end Token

/-! ## Places alike in all but positions -/

namespace Node

theorem sameAll_iff {nodes others : List Node} :
    sameAll nodes others = true ↔ List.Forall₂ (fun n m => same n m = true) nodes others := by
  induction nodes generalizing others with
  | nil => cases others <;> simp [sameAll]
  | cons node nodes ih =>
      cases others with
      | nil => simp [sameAll]
      | cons other others => rw [sameAll_cons, Bool.and_eq_true, ih, List.forall₂_cons]

theorem sameAll_reverse {nodes others : List Node} (h : sameAll nodes others = true) :
    sameAll nodes.reverse others.reverse = true :=
  sameAll_iff.mpr (List.forall₂_reverse_iff.mpr (sameAll_iff.mp h))

end Node

open Node

/-- Frames alike in all but positions. -/
structure Frame.Same (f g : Frame) : Prop where
  kind : f.kind = g.kind
  path : f.path = g.path
  before : sameAll g.before f.before = true
  first : sameBranch g.first f.first = true

/-- Places alike in all but positions. -/
structure Place.Same (p q : Place) : Prop where
  frames : List.Forall₂ Frame.Same p.frames q.frames
  nodes : sameAll q.nodes p.nodes = true

theorem Frame.Same.close {f g : Frame} (h : f.Same g) {branch other : List Node}
    (hbranch : sameAll other branch = true) : same (g.close other) (f.close branch) = true := by
  obtain ⟨kind, path, pos, before, first⟩ := f
  obtain ⟨kind', path', pos', before', first'⟩ := g
  obtain ⟨rfl, rfl, -, hfirst⟩ := h
  cases kind with
  | loop => simp [Frame.close, same, hbranch]
  | conditional negated =>
      cases first with
      | none =>
          cases first' with
          | none => simp [Frame.close, same, hbranch, sameBranch]
          | some body => simp [sameBranch] at hfirst
      | some body =>
          cases first' with
          | none => simp [sameBranch] at hfirst
          | some body' =>
              rw [sameBranch] at hfirst
              simp [Frame.close, same, hbranch, sameBranch, hfirst]

namespace Place

variable {known : String → Bool} {p p' q : Place}

theorem Same.addText (h : p.Same p') (s : String) (pos pos' : Position) :
    (p.addText s pos).Same (p'.addText s pos') := by
  obtain ⟨frames, nodes⟩ := p
  obtain ⟨frames', nodes'⟩ := p'
  obtain ⟨hframes, hnodes⟩ := h
  cases nodes with
  | nil =>
      cases nodes' with
      | nil => exact ⟨hframes, by simp [Place.addText, sameAll, same]⟩
      | cons => simp [sameAll] at hnodes
  | cons node nodes =>
      cases nodes' with
      | nil => simp [sameAll] at hnodes
      | cons node' nodes' =>
          refine ⟨?_, ?_⟩
          · cases node <;> cases node' <;> exact hframes
          · have hboth := hnodes
            rw [sameAll_cons, Bool.and_eq_true] at hboth
            obtain ⟨hnode, hrest⟩ := hboth
            cases node <;> cases node' <;>
              simp_all [Place.addText, sameAll_cons, same]

theorem Same.addTag (h : p.Same p') {pos : Position} {tag : Tag} (hadd : p.addTag pos tag = .ok q)
    (pos' : Position) : ∃ q', p'.addTag pos' tag = .ok q' ∧ q.Same q' := by
  obtain ⟨frames, nodes⟩ := p
  obtain ⟨frames', nodes'⟩ := p'
  obtain ⟨hframes, hnodes⟩ := h
  have hnil : sameAll [] [] = true := by rw [sameAll]
  cases tag with
  | interpolation path helpers =>
      cases hadd
      refine ⟨_, rfl, hframes, ?_⟩
      rw [sameAll_cons, hnodes]
      simp [same]
  | opening kind path =>
      cases hadd
      exact ⟨_, rfl, .cons ⟨rfl, rfl, hnodes, by rw [sameBranch]⟩ hframes, hnil⟩
  | orElse =>
      cases hframes with
      | nil => simp [Place.addTag] at hadd
      | @cons f g outer outer' hf houter =>
          obtain ⟨kind, path, start, before, first⟩ := f
          obtain ⟨kind', path', start', before', first'⟩ := g
          obtain ⟨rfl, rfl, hbefore, hfirst⟩ := hf
          by_cases hkind : kind = .loop
          · simp [Place.addTag, hkind] at hadd
          · cases first with
            | some body => simp [Place.addTag, hkind] at hadd
            | none =>
                cases first' with
                | some body => simp [sameBranch] at hfirst
                | none =>
                    simp only [Place.addTag, hkind] at hadd
                    cases hadd
                    refine ⟨_, by simp only [Place.addTag, hkind]; rfl, ?_, hnil⟩
                    refine .cons ⟨rfl, rfl, hbefore, ?_⟩ houter
                    rw [sameBranch]
                    exact sameAll_reverse hnodes
  | closing name =>
      cases hframes with
      | nil => simp [Place.addTag] at hadd
      | @cons f g outer outer' hf houter =>
          by_cases hname : name = f.kind.keyword
          · subst hname
            simp only [Place.addTag] at hadd
            cases hadd
            refine ⟨⟨outer', g.close nodes'.reverse :: g.before⟩, ?_, houter, ?_⟩
            · simp [Place.addTag, hf.kind]
            · rw [sameAll_cons, hf.close (sameAll_reverse hnodes), hf.before, Bool.and_self]
          · simp [Place.addTag, hname] at hadd

/-- A block is closed under the name of its kind. -/
theorem exists_kind_of_addTag {pos : Position} {name : String}
    (h : p.addTag pos (.closing name) = .ok q) : ∃ kind : BlockKind, name = kind.keyword := by
  obtain ⟨frames, nodes⟩ := p
  cases frames with
  | nil => cases h
  | cons f outer =>
      refine ⟨f.kind, ?_⟩
      by_contra hname
      simp [Place.addTag, hname] at h

/-- A tag that is read says something with its words. -/
theorem says_of_step {content : List Char} {pos : Position}
    (h : p.step known (.tag content, pos) = .ok q) (htrimmed : Text.Trimmed content) :
    ∃ tag, Tag.Says known (Tag.parts content).1 (Tag.parts content).2 tag ∧
      p.addTag pos tag = .ok q := by
  obtain ⟨tag, hform, hadd⟩ := step_tag_eq_ok_iff.mp h
  refine ⟨tag, hform.says htrimmed ?_, hadd⟩
  rintro name rfl
  exact exists_kind_of_addTag hadd

/-- A token of other blanks is read as before, or is refused. -/
theorem Same.step (h : p.Same p') {token token' : Token} (halike : token.Alike token')
    {pos : Position} (hstep : p.step known (token, pos) = .ok q) (pos' : Position) :
    (token'.Spaced → ∃ q', p'.step known (token', pos') = .ok q' ∧ q.Same q') ∧
      (¬token'.Spaced → ∃ e, p'.step known (token', pos') = .error e ∧
        e.flaw.kind = .unknownBlock) := by
  cases halike with
  | text s =>
      cases hstep
      exact ⟨fun _ => ⟨_, rfl, h.addText s pos pos'⟩, fun hnot => absurd trivial hnot⟩
  | tag htrimmed htrimmed' hparts =>
      obtain ⟨tag, hsays, hadd⟩ := says_of_step hstep htrimmed
      rw [hparts] at hsays
      constructor
      · intro hspace
        obtain ⟨q', hadd', hsame⟩ := h.addTag hadd pos'
        exact ⟨q', step_tag_eq_ok_iff.mpr ⟨tag, hsays.form htrimmed' hspace, hadd'⟩, hsame⟩
      · intro hspace
        obtain ⟨flaw, hflaw⟩ := hsays.malformed hspace
        have hkind := hflaw.kind_eq
        exact ⟨⟨flaw, pos'⟩, step_tag_eq_error_iff.mpr ⟨rfl, .inl (hkind ▸ hflaw)⟩, hkind.symm⟩

/-- Tokens of other blanks are read as before, unless one of them is refused. -/
theorem Same.run {tokens tokens' : List PlacedToken} (h : p.Same p')
    (halike : List.Forall₂ (fun t t' => t.1.Alike t'.1) tokens tokens')
    (hrun : p.run known tokens = .ok q) :
    ((∀ t ∈ tokens', t.1.Spaced) → ∃ q', p'.run known tokens' = .ok q' ∧ q.Same q') ∧
      (¬(∀ t ∈ tokens', t.1.Spaced) → ∃ e, p'.run known tokens' = .error e ∧
        e.flaw.kind = .unknownBlock) := by
  -- both runs go on together up to the first token that is refused
  induction halike generalizing p p' with
  | nil =>
      cases hrun
      exact ⟨fun _ => ⟨p', rfl, h⟩, fun hnot => absurd (by simp) hnot⟩
  | @cons t t' tokens tokens' ht _ ih =>
      obtain ⟨token, pos⟩ := t
      obtain ⟨token', pos'⟩ := t'
      cases hstep : p.step known (token, pos) with
      | error e =>
          rw [run_cons, hstep] at hrun
          cases hrun
      | ok r =>
          rw [run_cons_of_step hstep] at hrun
          obtain ⟨hread, hrefused⟩ := h.step ht hstep pos'
          by_cases hspace : token'.Spaced
          · obtain ⟨r', hstep', hsame⟩ := hread hspace
            rw [run_cons_of_step hstep', List.forall_mem_cons]
            obtain ⟨hrest, hrest'⟩ := ih hsame hrun
            exact ⟨fun hall => hrest hall.2, fun hnot => hrest' fun hall => hnot ⟨hspace, hall⟩⟩
          · obtain ⟨e, hstep', hkind⟩ := hrefused hspace
            refine ⟨fun hall => absurd (hall _ List.mem_cons_self) hspace, fun _ => ?_⟩
            refine ⟨e, ?_, hkind⟩
            rw [run_cons, hstep']
            rfl

theorem Same.finish (h : p.Same p') {nodes : List Node} (hfinish : p.finish = .ok nodes) :
    ∃ again, p'.finish = .ok again ∧ sameAll again nodes = true := by
  obtain ⟨hframes, rfl⟩ := finish_eq_ok_iff.mp hfinish
  have hframes' : p'.frames = [] := List.forall₂_nil_left_iff.mp (hframes ▸ h.frames)
  exact ⟨_, finish_eq_ok_iff.mpr ⟨hframes', rfl⟩, sameAll_reverse h.nodes⟩

theorem says_of_run {tokens : List PlacedToken} (hrun : p.run known tokens = .ok q)
    {content : List Char} {pos : Position} (hmem : (.tag content, pos) ∈ tokens)
    (htrimmed : Text.Trimmed content) :
    ∃ tag, Tag.Says known (Tag.parts content).1 (Tag.parts content).2 tag := by
  obtain ⟨before, after, rfl⟩ := List.append_of_mem hmem
  rw [run_append] at hrun
  cases hbefore : p.run known before with
  | error e =>
      rw [hbefore] at hrun
      cases hrun
  | ok r =>
      rw [hbefore] at hrun
      change r.run known _ = _ at hrun
      cases hstep : r.step known (.tag content, pos) with
      | error e =>
          rw [run_cons, hstep] at hrun
          cases hrun
      | ok r' =>
          obtain ⟨tag, hsays, -⟩ := says_of_step hstep htrimmed
          exact ⟨tag, hsays⟩

end Place

namespace Node

variable {known : String → Bool} {source : String} {nodes : List Node} {spans : List Span}

theorem parse_respaced (hparse : parse known source = .ok nodes)
    (hspans : List.Forall₂ Span.Respaced (Span.scan source.toList).1 spans) :
    ((∀ t ∈ Token.place .start spans, t.1.Spaced) →
        ∃ again, parse known (String.ofList (spans.flatMap Span.source)) = .ok again ∧
          sameAll again nodes = true) ∧
      (¬(∀ t ∈ Token.place .start spans, t.1.Spaced) →
        ∃ e, parse known (String.ofList (spans.flatMap Span.source)) = .error e ∧
          e.flaw.kind = .unknownBlock) := by
  obtain ⟨before, tree, hscan, htree, -⟩ := exists_spans_of_parse hparse
  rw [hscan] at hspans
  have hrun := Place.run_of_derives htree .start
  have hfinish := (parse_eq_finish hscan hrun).symm.trans hparse
  have htagged : Span.Tagged known before := by
    intro inner hinner hcode
    obtain ⟨pos, hpos⟩ := Token.mem_place hinner hcode .start
    exact Place.says_of_run hrun hpos (Text.trimmed_trim inner)
  have hscan' : Span.scan (String.ofList (spans.flatMap Span.source)).toList = (spans, none) := by
    rw [String.toList_ofList]
    exact Span.scan_eq_iff.mpr ⟨(Span.scan_eq_iff.mp hscan).1.respaced hspans htagged, rfl⟩
  have hstart : Place.start.Same Place.start := ⟨.nil, by rw [Place.start, sameAll]⟩
  obtain ⟨hread, hrefused⟩ := hstart.run (Token.place_respaced hspans .start .start) hrun
  constructor
  · intro hspace
    obtain ⟨q, hrun', hsame⟩ := hread hspace
    rw [parse_eq_finish hscan' hrun']
    exact hsame.finish hfinish
  · intro hspace
    obtain ⟨e, hrun', hkind⟩ := hrefused hspace
    refine ⟨e, ?_, hkind⟩
    rw [parse, Token.tokenize, hscan', TokenStream.parse_eq_run, hrun']
    rfl

end Node

/-- A source with other runs of blanks in its tags, wherever there may be any, is parsed to the same
template exactly when a space ends the keyword of every tag that opens a block. Where this is not
so, the source is refused for an unknown block. -/
theorem respaced_source_parses_iff {known : String → Bool} {source : String} {nodes : List Node}
    {spans : List Span} (hparse : Node.parse known source = .ok nodes)
    (hspans : List.Forall₂ Span.Respaced (Span.scan source.toList).1 spans) :
    ((∃ again, Node.parse known (String.ofList (spans.flatMap Span.source)) = .ok again ∧
        Node.sameAll again nodes = true) ↔
      ∀ inner, .tag inner ∈ spans → Tag.SpaceEndsKeyword (Text.trim inner)) ∧
    ((∃ inner, .tag inner ∈ spans ∧ ¬Tag.SpaceEndsKeyword (Text.trim inner)) →
      ∃ e, Node.parse known (String.ofList (spans.flatMap Span.source)) = .error e ∧
        e.flaw.kind = .unknownBlock) := by
  obtain ⟨hread, hrefused⟩ := Node.parse_respaced hparse hspans
  rw [Token.spaced_place_iff] at hread hrefused
  refine ⟨⟨?_, hread⟩, ?_⟩
  · rintro ⟨again, hagain, -⟩
    by_contra hspace
    obtain ⟨e, he, -⟩ := hrefused hspace
    cases hagain.symm.trans he
  · rintro ⟨inner, hinner, hspace⟩
    exact hrefused fun hall => hspace (hall inner hinner)

/-- A loop around a variable with a helper, as its three tags are written. -/
def loopSpans (opening inside closing : String) : List Span :=
  [.tag opening.toList, .tag inside.toList, .tag closing.toList]

def loopSource (opening inside closing : String) : String :=
  String.ofList ((loopSpans opening inside closing).flatMap Span.source)

def loopNodes : List Node :=
  [.loop ⟨"xs", []⟩ [.interpolation ⟨"this", []⟩ ["upper"] ⟨12, 1, 13⟩] ⟨0, 1, 1⟩]

theorem respaces_opening :
    Relation.ReflTransGen Tag.Respaces "#each xs".toList "\n#each \txs".toList :=
  .tail (.single (@Tag.Respaces.run [] [] ['\n'] "#each xs".toList (by decide) (by decide)
    (.inr (.inl (by decide)))))
    (@Tag.Respaces.run "\n#each".toList [' '] [' ', '\t'] "xs".toList (by decide) (by decide)
      (.inl (by decide)))

/-- Blanks of several kinds at the places of a tag where there may be any. -/
theorem respaced_source_parses_example :
    Node.parse (· == "upper") (loopSource "#each xs" "upper this" "/each") = .ok loopNodes ∧
    ∃ again, Node.parse (· == "upper") (loopSource "\n#each \txs" "upper\r\nthis" "/ each")
        = .ok again ∧ Node.sameAll again loopNodes = true := by
  have hparse : Node.parse (· == "upper") (loopSource "#each xs" "upper this" "/each")
      = .ok loopNodes := by rfl
  have hscan : (Span.scan (loopSource "#each xs" "upper this" "/each").toList).1
      = loopSpans "#each xs" "upper this" "/each" := by decide +kernel
  have hinside : Tag.Respaces "upper this".toList "upper\r\nthis".toList :=
    @Tag.Respaces.run "upper".toList [' '] ['\r', '\n'] "this".toList (by decide) (by decide)
      (.inl (by decide))
  have hclosing : Tag.Respaces "/each".toList "/ each".toList :=
    @Tag.Respaces.run ['/'] [] [' '] "each".toList (by decide) (by decide)
      (.inr (.inr (.inr ⟨[], '/', rfl, by decide, by decide⟩)))
  have hspans : List.Forall₂ Span.Respaced (loopSpans "#each xs" "upper this" "/each")
      (loopSpans "\n#each \txs" "upper\r\nthis" "/ each") :=
    .cons (.tag (by decide) respaces_opening) <| .cons (.tag (by decide) (.single hinside)) <|
      .cons (.tag (by decide) (.single hclosing)) .nil
  rw [← hscan] at hspans
  have hspaces : ∀ inner ∈ ["\n#each \txs".toList, "upper\r\nthis".toList, "/ each".toList],
      Tag.SpaceEndsKeyword (Text.trim inner) := by decide +kernel
  refine ⟨hparse, (respaced_source_parses_iff hparse hspans).1.mpr fun inner hinner => ?_⟩
  exact hspaces inner (by simpa [loopSpans] using hinner)

/-- With a tab behind its keyword a block is unknown. -/
theorem tab_hides_keyword :
    Node.parse (· == "upper") (loopSource "#each xs" "upper this" "/each") = .ok loopNodes ∧
    List.Forall₂ Span.Respaced (Span.scan (loopSource "#each xs" "upper this" "/each").toList).1
      (loopSpans "#each\txs" "upper this" "/each") ∧
    Node.parse (· == "upper") (loopSource "#each\txs" "upper this" "/each")
      = .error ⟨.unknownBlock "each\txs", ⟨0, 1, 1⟩⟩ := by
  have hscan : (Span.scan (loopSource "#each xs" "upper this" "/each").toList).1
      = loopSpans "#each xs" "upper this" "/each" := by decide +kernel
  have hopening : Tag.Respaces "#each xs".toList "#each\txs".toList :=
    @Tag.Respaces.run "#each".toList [' '] ['\t'] "xs".toList (by decide) (by decide)
      (.inl (by decide))
  refine ⟨by rfl, ?_, by rfl⟩
  rw [hscan]
  exact .cons (.tag (by decide) (.single hopening)) <| .cons (.same _) <| .cons (.same _) .nil

end Scaffold
