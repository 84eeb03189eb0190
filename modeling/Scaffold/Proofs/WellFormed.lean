import Scaffold.Proofs.Fields
import Scaffold.Proofs.Lexing
import Scaffold.Proofs.Parsing

namespace Scaffold

/-!
# Well-formed templates

`Node.WellFormed` describes the templates that a source can have. The
texts of a source fit their neighbours, since a comment between two texts
leaves no brace at the end of the first, and so no two texts that are
joined make a tag.
-/

namespace Text

theorem not_infix_append {s t : List Char} (hs : ¬['{', '{'] <:+: s)
    (ht : ¬['{', '{'] <:+: t) (hend : s.getLast? ≠ some '{') : ¬['{', '{'] <:+: s ++ t := by
  induction s with
  | nil => exact ht
  | cons c s ih =>
      rw [List.infix_cons_iff, not_or] at hs
      have hrest : ¬['{', '{'] <:+: s ++ t := by
        cases s with
        | nil => exact ht
        | cons d s => exact ih hs.2 (by simpa using hend)
      rw [List.cons_append, List.infix_cons_iff, not_or]
      refine ⟨?_, hrest⟩
      cases s with
      | nil =>
          have hc : '{' ≠ c := fun h => hend (by simp [← h])
          simp [List.cons_prefix_cons, hc]
      | cons d s => simpa [List.cons_prefix_cons] using hs.1

end Text

namespace Node

variable {known : String → Bool}

variable (known) in
/-- Nodes that a source can have, in a list that is followed by a tag or not: texts are not empty
and do not meet, no text holds a double brace, and one in front of a tag does not end in a brace;
paths can be read, helpers are known and no interpolation reads as an else. -/
inductive WellFormed : Bool → List Node → Prop
  | nil {followed : Bool} : WellFormed followed []
  | text {followed : Bool} {s : String} {pos : Position} {rest : List Node} (hne : s ≠ "")
      (hopen : ¬['{', '{'] <:+: s.toList)
      (hend : followed = true ∨ rest ≠ [] → s.toList.getLast? ≠ some '{')
      (hnext : ∀ node ∈ rest.head?, node.IsTag) (hrest : WellFormed followed rest) :
      WellFormed followed (.text s pos :: rest)
  | interpolation {followed : Bool} {path : Path} {helpers : List String} {pos : Position}
      {rest : List Node} (hpath : Path.parse path.dotted.toList = .ok path)
      (hhelpers : ∀ name ∈ helpers, known name = true)
      (hbare : helpers = [] → path.dotted ≠ "else") (hrest : WellFormed followed rest) :
      WellFormed followed (.interpolation path helpers pos :: rest)
  | conditional {followed negated : Bool} {path : Path} {body rest : List Node} {pos : Position}
      (hpath : Path.parse path.dotted.toList = .ok path) (hbody : WellFormed true body)
      (hrest : WellFormed followed rest) :
      WellFormed followed (.conditional negated path body none pos :: rest)
  | conditionalElse {followed negated : Bool} {path : Path} {body otherwise rest : List Node}
      {pos : Position} (hpath : Path.parse path.dotted.toList = .ok path)
      (hbody : WellFormed true body) (hotherwise : WellFormed true otherwise)
      (hrest : WellFormed followed rest) :
      WellFormed followed (.conditional negated path body (some otherwise) pos :: rest)
  | loop {followed : Bool} {path : Path} {body rest : List Node} {pos : Position}
      (hpath : Path.parse path.dotted.toList = .ok path) (hbody : WellFormed true body)
      (hrest : WellFormed followed rest) : WellFormed followed (.loop path body pos :: rest)

end Node

/-! ## The tokens of a source -/

namespace Token

/-- Tokens that a source can have, in a list that is followed by a tag or not. -/
def Fit (followed : Bool) : List PlacedToken → Prop
  | [] => True
  | (.text s, _) :: rest => s ≠ "" ∧ ¬['{', '{'] <:+: s.toList ∧
      (followed = true ∨ rest ≠ [] → s.toList.getLast? ≠ some '{') ∧ Fit followed rest
  | (.tag content, _) :: rest => Text.Trimmed content ∧ Fit followed rest

theorem Fit.of_append_tag {followed : Bool} {tokens rest : List PlacedToken} {content : List Char}
    {pos : Position} (h : Fit followed (tokens ++ (.tag content, pos) :: rest)) :
    Fit true tokens ∧ Fit followed rest := by
  induction tokens with
  | nil => exact ⟨trivial, h.2⟩
  | cons token tokens ih =>
      obtain ⟨token, start⟩ := token
      cases token with
      | text s =>
          obtain ⟨hne, hopen, hend, hrest⟩ := h
          have hlast : s.toList.getLast? ≠ some '{' := hend (Or.inr (by simp))
          exact ⟨⟨hne, hopen, fun _ => hlast, (ih hrest).1⟩, (ih hrest).2⟩
      | tag inner => exact ⟨⟨h.1, (ih h.2).1⟩, (ih h.2).2⟩

theorem fit_place {spans : List Span} (h : Span.Canonical spans) (p : Position) :
    Fit false (place p spans) := by
  induction h generalizing p with
  | nil => exact trivial
  | @text chars rest hne hclear hnext _ ih =>
      obtain ⟨hopen, hend⟩ :=
        (Text.clear_text_iff (Span.source_eq_nil_or_open hnext) chars).mp hclear
      refine ⟨by simpa using hne, by simpa using hopen, ?_, ih _⟩
      intro hmore
      have hrest : rest ≠ [] := by
        rintro rfl
        simp [place] at hmore
      simpa using hend (Span.source_ne_nil hnext hrest)
  | @tag inner rest _ _ _ ih =>
      rw [place, ofSpan?]
      split
      · next token htoken =>
          split at htoken
          · cases htoken
          · cases htoken
            exact ⟨Text.trimmed_trim inner, ih _⟩
      · exact ih _
  | longComment _ _ ih => exact ih _

end Token

namespace Node

/-! ## What parsing gives -/

theorem WellFormed.glue_text {followed : Bool} {s : String} {pos : Position} {rest : List Node}
    (h : WellFormed known followed rest) (hne : s ≠ "") (hopen : ¬['{', '{'] <:+: s.toList)
    (hend : followed = true ∨ rest ≠ [] → s.toList.getLast? ≠ some '{') :
    WellFormed known followed (glue (.text s pos) rest) := by
  cases h with
  | nil => exact .text hne hopen hend (by simp) .nil
  | @text _ t start rest hne' hopen' hend' hnext hrest =>
      have hlast : s.toList.getLast? ≠ some '{' := hend (Or.inr (List.cons_ne_nil _ _))
      refine .text (by simp [hne]) ?_ ?_ hnext hrest
      · rw [String.toList_append]
        exact Text.not_infix_append hopen hopen' hlast
      · intro hmore
        have hlast' := hend' hmore
        obtain ⟨c, cs, hcs⟩ :=
          List.exists_cons_of_ne_nil fun h => hne' (String.toList_eq_nil_iff.mp h)
        simpa [hcs] using hlast'
  | interpolation hpath hhelpers hbare hrest =>
      exact .text hne hopen hend (by simp [IsTag]) (.interpolation hpath hhelpers hbare hrest)
  | conditional hpath hbody hrest =>
      exact .text hne hopen hend (by simp [IsTag]) (.conditional hpath hbody hrest)
  | conditionalElse hpath hbody hotherwise hrest =>
      exact .text hne hopen hend (by simp [IsTag])
        (.conditionalElse hpath hbody hotherwise hrest)
  | loop hpath hbody hrest =>
      exact .text hne hopen hend (by simp [IsTag]) (.loop hpath hbody hrest)

theorem ne_bare_else {content : List Char} {path : Path} {helpers : List String}
    (htrimmed : Text.Trimmed content) (hcontent : Tag.IsInterpolation content)
    (hfields : Text.fields content = helpers.map String.toList ++ [path.dotted.toList]) :
    helpers = [] → path.dotted ≠ "else" := by
  rintro rfl hdotted
  rw [hdotted] at hfields
  exact hcontent.ne_else (htrimmed.eq_of_fields hfields)

theorem eq_nil_of_joinedAll_derives {tokens : List PlacedToken} {nodes : List Node}
    (h : Derives known tokens nodes) (hnodes : joinedAll nodes ≠ []) : tokens ≠ [] := by
  cases h with
  | nil => exact absurd rfl hnodes
  | text | interpolation | conditional | conditionalElse | loop => exact List.cons_ne_nil _ _

theorem wellFormed_of_derives {tokens : List PlacedToken} {tree : List Node}
    (h : Derives known tokens tree) {followed : Bool} (hfit : Token.Fit followed tokens) :
    WellFormed known followed (joinedAll tree) := by
  induction h generalizing followed with
  | nil => exact .nil
  | text hrest ih =>
      obtain ⟨hne, hopen, hend, hfit⟩ := hfit
      refine (ih hfit).glue_text hne hopen ?_
      rintro (hfollowed | hmore)
      · exact hend (Or.inl hfollowed)
      · exact hend (Or.inr (eq_nil_of_joinedAll_derives hrest hmore))
  | interpolation htag _ ih =>
      cases htag with
      | interpolation hcontent hfields hhelpers hvalid =>
          exact .interpolation hvalid.parse_dotted hhelpers
            (ne_bare_else hfit.1 hcontent hfields) (ih hfit.2)
  | conditional hopen _ _ _ ihbody ihrest =>
      cases hopen with
      | opening _ _ hvalid =>
          obtain ⟨hbody, hrest⟩ := hfit.2.of_append_tag
          exact .conditional hvalid.parse_dotted (ihbody hbody) (ihrest hrest)
  | conditionalElse hopen _ _ _ _ _ ihbody ihotherwise ihrest =>
      cases hopen with
      | opening _ _ hvalid =>
          obtain ⟨hbody, hmore⟩ := hfit.2.of_append_tag
          obtain ⟨hotherwise, hrest⟩ := hmore.of_append_tag
          exact .conditionalElse hvalid.parse_dotted (ihbody hbody) (ihotherwise hotherwise)
            (ihrest hrest)
  | loop hopen _ _ _ ihbody ihrest =>
      cases hopen with
      | opening _ _ hvalid =>
          obtain ⟨hbody, hrest⟩ := hfit.2.of_append_tag
          exact .loop hvalid.parse_dotted (ihbody hbody) (ihrest hrest)

theorem wellFormed_of_parse {source : String} {nodes : List Node}
    (h : parse known source = .ok nodes) : WellFormed known false nodes := by
  obtain ⟨hclosed, tree, hderives, rfl⟩ := TokenStream.parse_eq_ok_iff.mp h
  refine wellFormed_of_derives hderives ?_
  have hscan : Span.scan source.toList = ((Span.scan source.toList).1, none) := by
    have hopen : (Span.scan source.toList).2 = none := by
      simpa [Token.tokenize] using hclosed
    rw [← hopen]
  exact Token.fit_place (Span.scan_eq_iff.mp hscan).1 .start

end Node

end Scaffold
