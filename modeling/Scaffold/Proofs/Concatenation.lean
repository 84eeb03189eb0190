import Scaffold.Proofs.Moving
import Scaffold.Proofs.Printing
import Scaffold.Proofs.Rendering

namespace Scaffold

/-!
# Sources put one behind the other

A source that parses leaves nothing open at its end. So what is read of a
second source behind it is what is read of it alone, at positions that are
moved by the first. Only a brace at either side of the seam would make a
tag that neither source has.
-/

namespace Text

theorem clear_append_iff (mark after s t : List Char) :
    Clear mark after (s ++ t) ↔ Clear mark (t ++ after) s ∧ Clear mark after t := by
  induction s with
  | nil => simp [Clear]
  | cons c s ih => rw [List.cons_append, Clear, Clear, ih, List.append_assoc, and_assoc]

/-- In front of the mark itself, what follows the mark does not matter. -/
theorem Clear.of_mark (mark : List Char) {rest s : List Char} (h : Clear mark (mark ++ rest) s)
    (more : List Char) : Clear mark (mark ++ more) s := by
  induction s with
  | nil => trivial
  | cons c s ih =>
      obtain ⟨hc, hs⟩ := h
      refine ⟨fun hmark => hc ?_, ih hs⟩
      have hshort : mark <+: c :: (s ++ mark) := by
        have hwhole : c :: (s ++ mark) <+: c :: (s ++ (mark ++ more)) := by
          rw [← List.append_assoc]
          exact List.prefix_append (c :: (s ++ mark)) more
        apply List.prefix_of_prefix_length_le hmark hwhole
        simp
        omega
      have hlong : c :: (s ++ mark) <+: c :: (s ++ (mark ++ rest)) := by
        rw [← List.append_assoc]
        exact List.prefix_append (c :: (s ++ mark)) rest
      exact hshort.trans hlong

/-- What follows a text matters only for where the mark is found in it. -/
theorem Clear.of_prefix {mark s t chars : List Char} (h : Clear mark s chars)
    (hs : mark <+: s) (ht : mark <+: t) : Clear mark t chars := by
  obtain ⟨rest, rfl⟩ := hs
  obtain ⟨more, rfl⟩ := ht
  exact h.of_mark mark more

/-- The two texts make no double brace where they meet. -/
def Meets (s t : List Char) : Prop :=
  ¬(s.getLast? = some '{' ∧ t.head? = some '{')

theorem Meets.of_append {s s' t : List Char} (h : Meets (s ++ s') t) : Meets s' t := by
  rintro ⟨hs, ht⟩
  apply h
  simp [hs, ht]

theorem clear_open_of_meets {s t : List Char} (hs : ¬['{', '{'] <:+: s) (hmeets : Meets s t) :
    Clear ['{', '{'] t s := by
  induction s with
  | nil => trivial
  | cons c s ih =>
      rw [List.infix_cons_iff, not_or] at hs
      obtain ⟨hc, hs⟩ := hs
      cases s with
      | nil =>
          refine ⟨fun hopen => ?_, trivial⟩
          obtain ⟨hbrace, hrest⟩ := List.cons_prefix_cons.mp hopen
          cases t with
          | nil => simp at hrest
          | cons d t =>
              have hd : '{' = d := (List.cons_prefix_cons.mp hrest).1
              exact hmeets ⟨by simp [← hbrace], by simp [← hd]⟩
      | cons d s =>
          refine ⟨fun hopen => hc ?_, ih hs (by simpa [Meets] using hmeets)⟩
          simpa [List.cons_prefix_cons] using hopen

end Text

namespace Span

/-! ## Spans -/

/-- Spans in front of spans; text that meets text is one span. -/
def seam : List Span → List Span → List Span
  | [], back => back
  | [.text s], .text t :: rest => .text (s ++ t) :: rest
  | span :: front, back => span :: seam front back

theorem source_seam (front back : List Span) :
    (seam front back).flatMap source = front.flatMap source ++ back.flatMap source := by
  fun_induction seam front back with
  | case1 back => rfl
  | case2 s t rest => simp [source]
  | case3 span front back _ ih => rw [List.flatMap_cons, ih, List.flatMap_cons, List.append_assoc]

theorem seam_cons_of_not_isText {span : Span} (h : ¬span.IsText) (front back : List Span) :
    seam (span :: front) back = span :: seam front back := by
  cases span with
  | text => exact absurd trivial h
  | tag | longComment => simp [seam]

theorem seam_cons_cons (first second : Span) (front back : List Span) :
    seam (first :: second :: front) back = first :: seam (second :: front) back := by
  simp [seam]

theorem seam_text_of_not_isText (chars : List Char) {back : List Span}
    (h : ∀ span ∈ back.head?, ¬span.IsText) : seam [.text chars] back = .text chars :: back := by
  cases back with
  | nil => simp [seam]
  | cons span back =>
      have hspan : ¬span.IsText := h span rfl
      cases span with
      | text => exact absurd trivial hspan
      | tag | longComment => simp [seam]

/-- Text is read in front of what was read alone. -/
theorem Canonical.behind_text {chars : List Char} {back : List Span} (hback : Canonical back)
    (hne : chars ≠ []) (hopen : ¬['{', '{'] <:+: chars)
    (hmeets : Text.Meets chars (back.flatMap source)) : Canonical (seam [.text chars] back) := by
  have hclear : Text.Clear ['{', '{'] (back.flatMap source) chars :=
    Text.clear_open_of_meets hopen hmeets
  cases back with
  | nil =>
      rw [seam_text_of_not_isText chars (by simp)]
      exact .text hne hclear (by simp) .nil
  | cons span rest =>
      by_cases hspan : span.IsText
      · cases hback with
        | @text t _ hne' hclear' hnext hrest =>
            have hboth : Text.Clear ['{', '{'] (rest.flatMap source) (chars ++ t) :=
              (Text.clear_append_iff ..).mpr ⟨hclear, hclear'⟩
            exact .text (by simp [hne]) hboth hnext hrest
        | tag | longComment => exact hspan.elim
      · have hhead : ∀ other ∈ (span :: rest).head?, ¬other.IsText := by simpa using hspan
        rw [seam_text_of_not_isText chars hhead]
        exact .text hne hclear hhead hback

/-- Spans that are read alone are read one behind the other. -/
theorem Canonical.seam {front back : List Span} (hfront : Canonical front)
    (hback : Canonical back)
    (hmeets : Text.Meets (front.flatMap source) (back.flatMap source)) :
    Canonical (Span.seam front back) := by
  induction hfront with
  | nil => exact hback
  | @text chars rest hne hclear hnext _ ih =>
      rw [List.flatMap_cons] at hmeets
      cases rest with
      | nil =>
          have hopen : ¬['{', '{'] <:+: chars :=
            (Text.clear_end_iff (List.cons_ne_nil _ _) chars).mp hclear
          exact hback.behind_text hne hopen (by simpa [source] using hmeets)
      | cons span rest =>
          have hspan : ¬span.IsText := hnext span rfl
          have hrest := ih hmeets.of_append
          have hhead : ∀ other ∈ (Span.seam (span :: rest) back).head?, ¬other.IsText := by
            rw [seam_cons_of_not_isText hspan]
            simpa using hspan
          -- what follows the text still begins with a tag, so the text still ends there
          have hfollowed : (Span.seam (span :: rest) back).flatMap source ≠ [] →
              chars.getLast? ≠ some '{' := fun _ =>
            ((Text.clear_text_iff (source_eq_nil_or_open hnext) chars).mp hclear).2
              (source_ne_nil hnext (List.cons_ne_nil _ _))
          have hopen := ((Text.clear_text_iff (source_eq_nil_or_open hnext) chars).mp hclear).1
          rw [seam_cons_cons]
          refine .text hne ?_ hhead hrest
          exact (Text.clear_text_iff (source_eq_nil_or_open hhead) chars).mpr ⟨hopen, hfollowed⟩
  | @tag inner rest hshort hclear _ ih =>
      rw [List.flatMap_cons] at hmeets
      have hrest := ih hmeets.of_append
      rw [seam_cons_of_not_isText id]
      exact .tag hshort (Text.Clear.of_mark ['}', '}'] hclear _) hrest
  | @longComment inner rest hclear _ ih =>
      rw [List.flatMap_cons] at hmeets
      have hrest := ih hmeets.of_append
      rw [seam_cons_of_not_isText id]
      exact .longComment (Text.Clear.of_mark ['-', '-', '}', '}'] hclear _) hrest

theorem scan_append {s t : List Char} {front back : List Span} (hs : scan s = (front, none))
    (ht : scan t = (back, none)) (hmeets : Text.Meets s t) :
    scan (s ++ t) = (seam front back, none) := by
  obtain ⟨hfront, rfl⟩ := scan_eq_iff.mp hs
  obtain ⟨hback, rfl⟩ := scan_eq_iff.mp ht
  have hsource := source_seam front back
  exact scan_eq_iff.mpr ⟨hfront.seam hback hmeets, hsource⟩

end Span

/-! ## Nodes -/

namespace Place

variable {known : String → Bool}

theorem addText_addText (p : Place) (s t : String) (first second : Position) :
    (p.addText s first).addText t second = p.addText (s ++ t) first := by
  obtain ⟨frames, nodes⟩ := p
  cases nodes with
  | nil => rfl
  | cons last rest => cases last <;> simp [addText, String.append_assoc]

/-- The parser joins text that is read in two pieces. -/
theorem run_seam (p : Place) (pos : Position) (front back : List Span) :
    p.run known (Token.place pos (Span.seam front back)) =
      p.run known (Token.place pos (front ++ back)) := by
  fun_induction Span.seam front back generalizing p pos with
  | case1 back => rfl
  | case2 s t rest =>
      have htext (q : Place) (u : List Char) (at? : Position) (tokens : List PlacedToken) :
          q.run known ((.text (String.ofList u), at?) :: tokens) =
            (q.addText (String.ofList u) at?).run known tokens :=
        run_cons_of_step rfl tokens
      have hplace (u : List Char) (at? : Position) (spans : List Span) :
          Token.place at? (.text u :: spans) =
            (.text (String.ofList u), at?) :: Token.place (at?.advance u) spans := rfl
      rw [List.singleton_append, hplace, hplace, hplace, htext, htext, htext, addText_addText,
        String.ofList_append, Position.advance_append]
  | case3 span front back _ ih =>
      rw [List.cons_append, Token.place, Token.place]
      cases Token.ofSpan? span with
      | none => exact ih p _
      | some token =>
          dsimp only
          rw [run_cons, run_cons]
          congr 1
          funext q
          exact ih q _

end Place

namespace Node

variable {known : String → Bool}

/-- What a source that parses is read as. -/
theorem exists_spans_of_parse {source : String} {nodes : List Node}
    (h : parse known source = .ok nodes) :
    ∃ spans tree, Span.scan source.toList = (spans, none) ∧
      Derives known (Token.place .start spans) tree ∧ nodes = joinedAll tree := by
  obtain ⟨hclosed, tree, htree, hnodes⟩ := TokenStream.parse_eq_ok_iff.mp h
  have hopen : (Span.scan source.toList).2 = none := by
    simpa [Token.tokenize] using hclosed
  refine ⟨(Span.scan source.toList).1, tree, ?_, htree, hnodes⟩
  rw [← hopen]

theorem parse_eq_finish {source : String} {spans : List Span} {place : Place}
    (hscan : Span.scan source.toList = (spans, none))
    (hrun : Place.start.run known (Token.place .start spans) = .ok place) :
    parse known source = place.finish := by
  have htokens : Token.tokenize source = ⟨Token.place .start spans, none⟩ := by
    rw [Token.tokenize, hscan]
    rfl
  rw [parse, htokens, TokenStream.parse_eq_run, hrun]
  rfl

/-- A source in two parts is parsed as the tokens of both, also where text meets text. -/
theorem parse_eq_of_seam {source : String} {front back : List Span}
    (hscan : Span.scan source.toList = (Span.seam front back, none)) :
    parse known source = TokenStream.parse known ⟨Token.place .start (front ++ back), none⟩ := by
  rw [parse, Token.tokenize, hscan, TokenStream.parse_eq_run, TokenStream.parse_eq_run,
    Place.run_seam]
  rfl

/-- The nodes of a second source are found behind those of the first, moved by its length. -/
theorem parse_append {a b : String} {before after : List Node} (ha : parse known a = .ok before)
    (hb : parse known b = .ok after) (hmeets : Text.Meets a.toList b.toList) :
    parse known (a ++ b) = .ok (seam before
      (movedAll (·.movedTo (Position.start.advance a.toList)) after)) := by
  obtain ⟨front, tree, hfront, htree, rfl⟩ := exists_spans_of_parse ha
  obtain ⟨back, tree', hback, htree', rfl⟩ := exists_spans_of_parse hb
  generalize horigin : Position.start.advance a.toList = origin
  have hscan : Span.scan (a ++ b).toList = (Span.seam front back, none) := by
    rw [String.toList_append]
    exact Span.scan_append hfront hback hmeets
  have hbehind : Token.place origin back
      = (Token.place .start back).map (Prod.map id (·.movedTo origin)) := by
    rw [← Token.place_movedTo Position.counted_start, Position.start_movedTo]
  have htokens : Token.place .start (front ++ back)
      = Token.place .start front ++ Token.place origin back := by
    rw [place_append, (Span.scan_eq_iff.mp hfront).2, horigin]
  have hrun : Place.start.run known (Token.place .start (Span.seam front back))
      = .ok ((Place.start.behind (joinedAll tree)).behind
        (movedAll (·.movedTo origin) (joinedAll tree'))) := by
    rw [Place.run_seam, htokens, Place.run_append_of_run (Place.run_of_derives htree _), hbehind,
      Place.run_of_derives (htree'.moved _), joinedAll_moved]
  rw [parse_eq_finish hscan hrun, Place.finish_eq_ok_iff]
  simp [Place.behind, Place.start]

end Node

/-! ## Rendering -/

namespace Renderer

variable {r : Renderer}

theorem renderNodes_cons (node : Node) (rest : List Node) (s : Scope) :
    r.renderNodes (node :: rest) s = (do
      let t ← r.renderNode node s
      let u ← r.renderNodes rest s
      pure (t ++ u)) := by
  rw [renderNodes]

theorem renderNodes_glue (node : Node) (rest : List Node) (s : Scope) :
    r.renderNodes (Node.glue node rest) s = r.renderNodes (node :: rest) s := by
  cases node with
  | text t pos =>
      cases rest with
      | nil => rfl
      | cons next rest =>
          cases next with
          | text u q =>
              simp only [Node.glue, renderNodes, renderNode]
              cases r.renderNodes rest s <;>
                simp [bind, Except.bind, pure, Except.pure, String.append_assoc]
          | interpolation | conditional | loop => rfl
  | interpolation | conditional | loop => rfl

theorem renderNodes_seam (before after : List Node) (s : Scope) :
    r.renderNodes (Node.seam before after) s = r.renderNodes (before ++ after) s := by
  fun_induction Node.seam before after with
  | case1 after => rfl
  | case2 node after => exact renderNodes_glue node after s
  | case3 node next rest after ih =>
      rw [List.cons_append, renderNodes_cons, renderNodes_cons, ih]

end Renderer

/-- Two sources that parse, put one behind the other so that no double brace comes about where they
meet, parse to the nodes of the first and those of the second, moved by the first and with texts
that meet made one. They render to the text of the first and the text of the second; or they fail
as the first does, or else as the second does, at the moved position. -/
theorem append_parses_and_renders {known : String → Bool} {a b : String}
    {before after : List Node} (ha : Node.parse known a = .ok before)
    (hb : Node.parse known b = .ok after)
    (hmeets : ¬(a.toList.getLast? = some '{' ∧ b.toList.head? = some '{')) :
    ∃ nodes, Node.parse known (a ++ b) = .ok nodes ∧
      nodes = Node.seam before
        (Node.movedAll (·.movedTo (Position.start.advance a.toList)) after) ∧
      ∀ (r : Renderer) (c : Context), r.render nodes c = (do
        let t ← r.render before c
        let u ← (r.render after c).moved (·.movedTo (Position.start.advance a.toList))
        pure (t ++ u)) := by
  refine ⟨_, Node.parse_append ha hb hmeets, rfl, fun r c => ?_⟩
  simp only [Renderer.render]
  rw [Renderer.renderNodes_seam, Renderer.renderNodes_append, Renderer.renderNodes_moved]

/-- A text in two pieces, with a comment between them, and behind it a text that runs into them and
a name that is not there. -/
theorem append_parses_and_renders_example :
    Node.parse (fun _ => false) "a\n\x7b\x7b! \x7b \x7d\x7db" = .ok [.text "a\nb" ⟨0, 1, 1⟩] ∧
    Node.parse (fun _ => false) "c\x7b\x7bx\x7d\x7d"
      = .ok [.text "c" ⟨0, 1, 1⟩, .interpolation ⟨"x", []⟩ [] ⟨1, 1, 2⟩] ∧
    Node.parse (fun _ => false) "a\n\x7b\x7b! \x7b \x7d\x7dbc\x7b\x7bx\x7d\x7d"
      = .ok [.text "a\nbc" ⟨0, 1, 1⟩, .interpolation ⟨"x", []⟩ [] ⟨12, 2, 11⟩] ∧
    Renderer.render ⟨.standard, .strict⟩
        [.text "a\nbc" ⟨0, 1, 1⟩, .interpolation ⟨"x", []⟩ [] ⟨12, 2, 11⟩] ⟨[]⟩
      = .error (.error ⟨.missingVariable, ⟨"x", []⟩, ⟨12, 2, 11⟩⟩) := by
  have ha : Node.parse (fun _ => false) "a\n\x7b\x7b! \x7b \x7d\x7db"
      = .ok [.text "a\nb" ⟨0, 1, 1⟩] := by rfl
  have hb : Node.parse (fun _ => false) "c\x7b\x7bx\x7d\x7d"
      = .ok [.text "c" ⟨0, 1, 1⟩, .interpolation ⟨"x", []⟩ [] ⟨1, 1, 2⟩] := by rfl
  obtain ⟨nodes, hparse, hnodes, hrender⟩ := append_parses_and_renders ha hb (by decide)
  have hseam : nodes
      = [.text "a\nbc" ⟨0, 1, 1⟩, .interpolation ⟨"x", []⟩ [] ⟨12, 2, 11⟩] := by
    rw [hnodes]
    rfl
  subst hseam
  refine ⟨ha, hb, hparse, ?_⟩
  rw [hrender]
  rfl

end Scaffold
