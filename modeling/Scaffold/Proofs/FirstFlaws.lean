import Scaffold.Proofs.Concatenation
import Scaffold.Proofs.Partition

namespace Scaffold

/-!
# First flaws

Behind a tag or a comment that is closed, a source may go on in any way
without a change to the spans up to there. So what is wrong with a tag is
what is wrong with every source that goes on behind it. Only what is wrong
at the end of a source depends on what follows.
-/

/-! ## Spans in front of another rest -/

namespace Span

variable {src src' rest rest' : List Char} {front spans after after' : List Span} {span : Span}
  {open? open?' : Option Unclosed}

/-- A span that begins where text ends is a tag or a comment. -/
theorem Cuts.not_isText (h : Cuts src (span :: spans) rest open?)
    (hend : src = [] ∨ ['{', '{'] <+: src) : ¬span.IsText := by
  cases h with
  | text hne hclear =>
      obtain ⟨c, chars, rfl⟩ := List.exists_cons_of_ne_nil hne
      rcases hend with hnil | hopen
      · cases hnil
      · exact absurd hopen hclear.1
  | tag | longComment => exact id

/-- Behind a tag or a comment a source may go on in another way. -/
theorem Cuts.behind (h : Cuts src (front ++ span :: after) rest open?) (hspan : ¬span.IsText)
    (h' : Cuts src' after' rest' open?') :
    Cuts ((front ++ [span]).flatMap source ++ src') (front ++ span :: after') rest' open?' := by
  induction front generalizing src with
  | nil =>
      cases h with
      | text => exact absurd trivial hspan
      | tag hshort hclear =>
          simpa using Cuts.tag hshort (Text.Clear.of_mark ['}', '}'] hclear _) h'
      | longComment hclear =>
          simpa using Cuts.longComment (Text.Clear.of_mark ['-', '-', '}', '}'] hclear _) h'
  | cons first front ih =>
      rw [List.cons_append, List.flatMap_cons, List.append_assoc]
      cases h with
      | @text chars src _ _ _ hne hclear hend hsrc =>
          have hrest := ih hsrc
          -- the text still ends there, since the next span begins with two braces
          obtain ⟨next, more, hnext⟩ : ∃ next more, front ++ [span] = next :: more :=
            List.exists_cons_of_ne_nil (by simp)
          have hspans : front ++ span :: after = next :: (more ++ after) := by
            rw [← List.cons_append, ← hnext, List.append_assoc]
            rfl
          change Cuts _ (front ++ span :: after) rest open? at hsrc
          rw [hspans] at hsrc
          have hopen : ['{', '{'] <+: next.source := open_prefix_source (hsrc.not_isText hend)
          have hold : ['{', '{'] <+: src := by
            have hsource := hsrc.source_eq
            rw [List.flatMap_cons, List.append_assoc] at hsource
            exact hsource ▸ hopen.trans (List.prefix_append _ _)
          have hnew : ['{', '{'] <+: (front ++ [span]).flatMap source ++ src' := by
            rw [hnext, List.flatMap_cons, List.append_assoc]
            exact hopen.trans (List.prefix_append _ _)
          exact .text hne (hclear.of_prefix hold hnew) (Or.inr hnew) hrest
      | tag hshort hclear hsrc =>
          exact .tag hshort (Text.Clear.of_mark ['}', '}'] hclear _) (ih hsrc)
      | longComment hclear hsrc =>
          exact .longComment (Text.Clear.of_mark ['-', '-', '}', '}'] hclear _) (ih hsrc)

/-- The source in front of a rest, and the spans of it with another rest. -/
theorem exists_scan_behind (hspans : (scan src).1 = front ++ span :: after)
    (hspan : ¬span.IsText) :
    (∃ rest, src = (front ++ [span]).flatMap source ++ rest) ∧
      ∀ src', ∃ after',
        (scan ((front ++ [span]).flatMap source ++ src')).1 = front ++ span :: after' := by
  obtain ⟨spans, rest, open?, hcuts⟩ := exists_cuts src
  obtain rfl : spans = front ++ span :: after := by rw [← hspans, hcuts.scan_eq]
  constructor
  · have hsource := hcuts.source_eq
    exact ⟨after.flatMap source ++ rest, by simpa using hsource⟩
  · intro src'
    obtain ⟨after', rest', open?', hcuts'⟩ := exists_cuts src'
    exact ⟨after', by rw [(hcuts.behind hspan hcuts').scan_eq]⟩

/-- Every source can be closed. -/
theorem Cuts.exists_closing (h : Cuts src spans rest open?) :
    ∃ more spans', Cuts (src ++ more) spans' [] none := by
  induction h with
  | complete => exact ⟨[], [], .complete⟩
  | @openTag inner hshort hopen =>
      have hshort' : ¬['!', '-', '-'] <+: inner ++ [' '] := by
        rcases inner with _ | ⟨a, _ | ⟨b, _ | ⟨c, inner⟩⟩⟩
        · simp [List.cons_prefix_cons]
        · simp [List.cons_prefix_cons]
        · simp [List.cons_prefix_cons]
        · simpa [List.cons_prefix_cons] using hshort
      have hclear : Text.Clear ['}', '}'] ['}', '}'] (inner ++ [' ']) := by
        refine (Text.clear_double_iff '}' _ []).mpr ⟨?_, by simp⟩
        rw [List.infix_concat_iff, not_or]
        refine ⟨fun hsuffix => ?_, hopen⟩
        have hlast := hsuffix.getLast (List.cons_ne_nil _ _)
        simp at hlast
      exact ⟨[' ', '}', '}'], _, by simpa [source] using Cuts.tag hshort' hclear .complete⟩
  | @openComment inner hopen =>
      have hclear := (Text.clear_long_iff inner []).mpr hopen
      exact ⟨['-', '-', '}', '}'], _, by simpa [source] using Cuts.longComment hclear .complete⟩
  | @text chars src _ _ _ hne hclear hend hsrc ih =>
      rcases hend with rfl | hopen
      · exact ⟨[], [.text chars], by simpa using Cuts.text hne hclear (Or.inl rfl) .complete⟩
      · obtain ⟨more, spans', hmore⟩ := ih
        have hopen' : ['{', '{'] <+: src ++ more := hopen.trans (List.prefix_append _ _)
        refine ⟨more, .text chars :: spans', ?_⟩
        rw [List.append_assoc]
        exact .text hne (hclear.of_prefix hopen hopen') (Or.inr hopen') hmore
  | @tag inner _ _ _ _ hshort hclear hsrc ih =>
      obtain ⟨more, spans', hmore⟩ := ih
      refine ⟨more, .tag inner :: spans', ?_⟩
      rw [List.append_assoc]
      exact .tag hshort (Text.Clear.of_mark ['}', '}'] hclear _) hmore
  | @longComment inner _ _ _ _ hclear hsrc ih =>
      obtain ⟨more, spans', hmore⟩ := ih
      refine ⟨more, .longComment inner :: spans', ?_⟩
      rw [List.append_assoc]
      exact .longComment (Text.Clear.of_mark ['-', '-', '}', '}'] hclear _) hmore

end Span

/-! ## Tags -/

theorem Span.eq_of_append_tag {front front' back back' : List Span} {inner inner' : List Char}
    (h : front ++ .tag inner :: back = front' ++ .tag inner' :: back')
    (hlength : (front.flatMap source).length = (front'.flatMap source).length) :
    front = front' ∧ inner = inner' := by
  induction front generalizing front' with
  | nil =>
      cases front' with
      | nil =>
          cases h
          exact ⟨rfl, rfl⟩
      | cons span front' =>
          cases h
          simp [source] at hlength
  | cons span front ih =>
      cases front' with
      | nil =>
          cases h
          simp [source] at hlength
      | cons span' front' =>
          obtain ⟨rfl, hrest⟩ := List.cons.inj h
          obtain ⟨rfl, rfl⟩ := ih hrest (by simpa using hlength)
          exact ⟨rfl, rfl⟩

/-- The tag at the position in the source ends within so many characters. -/
def Position.TagEndsWithin (p : Position) (source : String) (length : Nat) : Prop :=
  ∃ front inner back, (Span.scan source.toList).1 = front ++ .tag inner :: back ∧
    p = start.advance (front.flatMap Span.source) ∧
    ((front ++ [.tag inner]).flatMap Span.source).length ≤ length

/-! ## Flaws -/

/-- Is it a flaw of a tag, and not of the end of a source? -/
def FlawKind.isOfTag : FlawKind → Bool
  | .mismatchedBlock | .misplacedElse | .unknownBlock | .unknownHelper | .invalidPath => true
  | .unterminatedTag | .unterminatedBlock => false

variable {known : String → Bool}

theorem Offence.isOfTag {blocks : List OpenBlock} {content : List Char} {kind : FlawKind}
    {flaw : Flaw} (h : Offence known blocks content kind flaw) : kind.isOfTag = true := by
  cases h with
  | malformed h => cases h <;> rfl
  | elseOutside | elseInLoop | secondElse | closeWithoutOpen | closeOfOther => rfl

/-- A flaw of a tag is that of every stream that begins in the same way. -/
theorem FirstFlaw.exists_tag {stream : TokenStream} {kind : FlawKind} {e : ParseError}
    (h : FirstFlaw known stream kind e) (hkind : kind.isOfTag = true) :
    ∃ before content after, stream.tokens = before ++ (.tag content, e.position) :: after ∧
      ∀ (stream' : TokenStream) (after' : List PlacedToken),
        stream'.tokens = before ++ (.tag content, e.position) :: after' →
          FirstFlaw known stream' kind e := by
  cases h with
  | tag htokens hbefore hfirst hblocks hflaw =>
      exact ⟨_, _, _, htokens, fun stream' after' h => .tag h hbefore hfirst hblocks hflaw⟩
  | unclosed | unclosedBlock => cases hkind

namespace Node

/-- A source that is refused for a tag has spans up to this tag for which every source is refused
that begins with them. -/
theorem exists_tag_of_parse {source : String} {e : ParseError}
    (h : parse known source = .error e) (hkind : e.flaw.kind.isOfTag = true) :
    ∃ front inner, (∃ back, (Span.scan source.toList).1 = front ++ .tag inner :: back) ∧
      e.position = Position.start.advance (front.flatMap Span.source) ∧
      ∀ (other : String) (back : List Span),
        (Span.scan other.toList).1 = front ++ .tag inner :: back →
          parse known other = .error e := by
  obtain ⟨before, content, after, htokens, hothers⟩ :=
    (TokenStream.parse_eq_error_iff.mp h).exists_tag hkind
  obtain ⟨front, inner, back, hspans, rfl, hinner, hpos⟩ := Token.exists_of_place htokens
  refine ⟨front, inner, ⟨back, hspans⟩, hpos, fun other back' hother => ?_⟩
  apply TokenStream.parse_eq_error_iff.mpr
  apply hothers
  change Token.place .start (Span.scan other.toList).1 = _
  rw [hother, place_append, Token.place, hinner, hpos]

/-- The source goes on behind the tag that it is refused for. -/
theorem parse_append_of_error {a : String} {e : ParseError} (h : parse known a = .error e)
    (hkind : e.flaw.kind.isOfTag = true) (b : String) :
    parse known (a ++ b) = .error e ∧ e.position.TagEndsWithin (a ++ b) a.length := by
  obtain ⟨front, inner, ⟨back, hspans⟩, hpos, hothers⟩ := exists_tag_of_parse h hkind
  obtain ⟨⟨rest, hsource⟩, hbehind⟩ := Span.exists_scan_behind hspans id
  obtain ⟨back', hback⟩ := hbehind (rest ++ b.toList)
  have happend : (a ++ b).toList =
      (front ++ [Span.tag inner]).flatMap Span.source ++ (rest ++ b.toList) := by
    rw [String.toList_append, hsource, List.append_assoc]
  rw [← happend] at hback
  refine ⟨hothers _ back' hback, front, inner, back', hback, hpos, ?_⟩
  rw [← String.length_toList, hsource, List.length_append]
  exact Nat.le_add_right _ _

theorem parse_of_append {a b : String} {e : ParseError} (h : parse known (a ++ b) = .error e)
    (hkind : e.flaw.kind.isOfTag = true) (hends : e.position.TagEndsWithin (a ++ b) a.length) :
    parse known a = .error e := by
  obtain ⟨front, inner, ⟨back, hspans⟩, hpos, hothers⟩ := exists_tag_of_parse h hkind
  obtain ⟨front', inner', back', hspans', hpos', hlength⟩ := hends
  -- both tags begin at the same offset of one source, so they are the same tag
  have hoffset : (front.flatMap Span.source).length = (front'.flatMap Span.source).length := by
    have heq := congrArg Position.offset (hpos.symm.trans hpos')
    simpa [Position.start] using heq
  obtain ⟨rfl, rfl⟩ := Span.eq_of_append_tag (hspans.symm.trans hspans') hoffset
  obtain ⟨⟨rest, hsource⟩, hbehind⟩ := Span.exists_scan_behind hspans id
  rw [String.toList_append] at hsource
  obtain ⟨more, hmore⟩ : (front ++ [Span.tag inner]).flatMap Span.source <+: a.toList := by
    apply List.prefix_of_prefix_length_le ⟨rest, hsource.symm⟩ (List.prefix_append _ _)
    rwa [String.length_toList]
  obtain ⟨back'', hback⟩ := hbehind more
  rw [hmore] at hback
  exact hothers a back'' hback

/-! ## The end of a source -/

theorem exists_closed (source : String) : ∃ b, (Token.tokenize (source ++ b)).unclosed = none := by
  obtain ⟨spans, rest, open?, hcuts⟩ := Span.exists_cuts source.toList
  obtain ⟨more, spans', hmore⟩ := hcuts.exists_closing
  refine ⟨String.ofList more, ?_⟩
  rw [Token.tokenize, String.toList_append, String.toList_ofList, hmore.scan_eq]
  rfl

/-- An empty tag behind tokens that are read is refused. -/
theorem parse_append_emptyTag {a : String} {p : Place}
    (hclosed : (Token.tokenize a).unclosed = none)
    (hrun : Place.start.run known (Token.tokenize a).tokens = .ok p) :
    ∃ pos, parse known (a ++ " \x7b\x7b\x7d\x7d") = .error ⟨.emptyTag, pos⟩ := by
  obtain ⟨spans, open?, hscan⟩ : ∃ spans open?, Span.scan a.toList = (spans, open?) := ⟨_, _, rfl⟩
  simp only [Token.tokenize, hscan] at hclosed hrun
  obtain rfl : open? = none := by simpa using hclosed
  have htag : Span.scan [' ', '{', '{', '}', '}'] = ([.text [' '], .tag []], none) := by decide
  have hmeets : Text.Meets a.toList [' ', '{', '{', '}', '}'] := by simp [Text.Meets]
  have hboth : Span.scan (a ++ " \x7b\x7b\x7d\x7d").toList =
      (Span.seam spans [.text [' '], .tag []], none) := by
    rw [String.toList_append]
    exact Span.scan_append hscan htag hmeets
  refine ⟨(Position.start.advance (spans.flatMap Span.source)).advance [' '], ?_⟩
  rw [parse_eq_of_seam hboth, TokenStream.parse_eq_run, place_append,
    Place.run_append_of_run hrun]
  rfl

theorem exists_append_ne {a : String} {e : ParseError} (h : parse known a = .error e)
    (hkind : e.flaw.kind.isOfTag = false) : ∃ b, parse known (a ++ b) ≠ .error e := by
  have hfirst := TokenStream.parse_eq_error_iff.mp h
  generalize hflaw : e.flaw.kind = kind at hfirst hkind
  cases hfirst with
  | tag _ _ _ _ hoffence => cases hoffence.isOfTag.symm.trans hkind
  | unclosed =>
      obtain ⟨b, hclosed⟩ := exists_closed a
      refine ⟨b, fun hsame => ?_⟩
      cases TokenStream.parse_eq_error_iff.mp hsame with
      | tag _ _ _ _ hoffence => cases hoffence.isOfTag
      | unclosed _ hopen => cases hclosed.symm.trans hopen
  | unclosedBlock hblocks hclosed =>
      obtain ⟨p, hrun, -⟩ := Place.run_of_opens hblocks
      obtain ⟨pos, hempty⟩ := parse_append_emptyTag hclosed hrun
      refine ⟨_, fun (hsame : parse known (a ++ " \x7b\x7b\x7d\x7d") = .error _) => ?_⟩
      cases hempty.symm.trans hsame

end Node

/-- A source is refused for a flaw of a tag exactly when every source that it begins is refused for
it, at the same position. An error stays, whatever is put behind the source, unless it is one of the
two of the end of a source. -/
theorem first_flaw_is_final (known : String → Bool) (a : String) (e : ParseError) :
    (e.flaw.kind.isOfTag = true → ∀ b, Node.parse known a = .error e ↔
      Node.parse known (a ++ b) = .error e ∧ e.position.TagEndsWithin (a ++ b) a.length) ∧
    (Node.parse known a = .error e →
      ((∀ b, Node.parse known (a ++ b) = .error e) ↔
        e.flaw.kind ≠ .unterminatedTag ∧ e.flaw.kind ≠ .unterminatedBlock)) := by
  have hkinds : e.flaw.kind.isOfTag = true ↔
      e.flaw.kind ≠ .unterminatedTag ∧ e.flaw.kind ≠ .unterminatedBlock := by
    cases e.flaw.kind <;> decide
  constructor
  · intro hkind b
    constructor
    · intro h
      exact Node.parse_append_of_error h hkind b
    · rintro ⟨h, hends⟩
      exact Node.parse_of_append h hkind hends
  · intro h
    rw [← hkinds]
    constructor
    · intro hall
      by_cases hkind : e.flaw.kind.isOfTag = true
      · exact hkind
      · obtain ⟨b, hb⟩ := Node.exists_append_ne h (Bool.eq_false_iff.mpr hkind)
        exact absurd (hall b) hb
    · intro hkind b
      exact (Node.parse_append_of_error h hkind b).1

/-- A closing tag of another block, and behind it a tag without an end or anything else. -/
theorem first_flaw_is_final_example :
    ∃ e, e.flaw.kind = .mismatchedBlock ∧ e.position = ⟨10, 2, 1⟩ ∧
      Node.parse (fun _ => false) "\x7b\x7b#if x\x7d\x7d\n\x7b\x7b/each\x7d\x7d" = .error e ∧
      e.position.TagEndsWithin
        ("\x7b\x7b#if x\x7d\x7d\n\x7b\x7b/each\x7d\x7d" ++ "\x7b\x7b") 19 ∧
      ∀ b, Node.parse (fun _ => false)
        ("\x7b\x7b#if x\x7d\x7d\n\x7b\x7b/each\x7d\x7d" ++ b) = .error e := by
  have hparse : Node.parse (fun _ => false) "\x7b\x7b#if x\x7d\x7d\n\x7b\x7b/each\x7d\x7d"
      = .error ⟨.closeOfOther "each" (.conditional false) ⟨0, 1, 1⟩, ⟨10, 2, 1⟩⟩ := by rfl
  obtain ⟨hfinal, hall⟩ := first_flaw_is_final (fun _ => false) _ _
  obtain ⟨-, hends⟩ := (hfinal rfl "\x7b\x7b").mp hparse
  exact ⟨_, rfl, rfl, hparse, hends, (hall hparse).mpr ⟨by decide, by decide⟩⟩

end Scaffold
