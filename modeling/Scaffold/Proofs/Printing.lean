import Scaffold.Proofs.HelperSets
import Scaffold.Proofs.WellFormed
import Scaffold.Template.Print

namespace Scaffold

/-!
# Printing and parsing

What is printed of a well-formed template falls into the spans of its
texts and tags, these are derived as the template again, and so parsing
undoes printing. What parsing gives is well formed, hence parsing what is
printed of it changes nothing.
-/

/-! ## Printed tags -/

namespace Tag

/-- The contents of printed tags: trimmed, without a closing brace, and no comment. -/
structure IsPlain (content : List Char) : Prop where
  trimmed : Text.Trimmed content
  no_close : '}' ∉ content
  no_comment : content.head? ≠ some '!'

theorem IsPlain.ofSpan?_eq {content : List Char} (h : IsPlain content) :
    Token.ofSpan? (.tag content) = some (.tag content) := by
  have hcomment : (content.head? == some '!') = false := by simpa using h.no_comment
  simp [Token.ofSpan?, h.trimmed.trim_eq, hcomment]

theorem IsPlain.canonical {content : List Char} (h : IsPlain content) {rest : List Span}
    (hrest : Span.Canonical rest) : Span.Canonical (.tag content :: rest) := by
  refine .tag ?_ (Text.clear_of_not_mem h.no_close _ _) hrest
  rintro ⟨after, rfl⟩
  exact h.no_comment rfl

theorem isPlain_else : IsPlain "else".toList where
  trimmed := (Text.isWord_of_all (by decide) (by decide)).trimmed
  no_close := by decide
  no_comment := by decide

theorem isPlain_open (kind : BlockKind) {path : Path} (h : path.Valid) :
    IsPlain (Node.openContent kind path) where
  trimmed := by
    have hhash : Text.IsWord ['#'] := Text.isWord_of_all (by decide) (by decide)
    have hends := hhash.trimmed_between h.isWord.isWord (kind.keyword.toList ++ [' '])
    simpa [Node.openContent] using hends
  no_close := by
    have hkeyword : '}' ∉ kind.keyword.toList := by rcases kind with (_ | _) | _ <;> decide
    have hpath : '}' ∉ path.dotted.toList := h.isWord.not_mem (by decide)
    simp [Node.openContent, hkeyword, hpath]
  no_comment := by simp [Node.openContent]

theorem isPlain_close (kind : BlockKind) : IsPlain (Node.closeContent kind) where
  trimmed := by
    have hword : Text.IsWord (Node.closeContent kind) := by
      rcases kind with (_ | _) | _ <;> exact Text.isWord_of_all (by decide) (by decide)
    exact hword.trimmed
  no_close := by rcases kind with (_ | _) | _ <;> decide
  no_comment := by simp [Node.closeContent]

theorem interpolationContent_eq (path : Path) (helpers : List String) :
    Node.interpolationContent path helpers =
      Text.spaced (helpers.map String.toList) path.dotted.toList := by
  rw [Node.interpolationContent, Text.spaced, List.foldr_map]

/-- A character of an interpolation is one of a path or a space, and the first is no space. -/
theorem interpolationContent_chars {path : Path} {helpers : List String} (hpath : path.Valid)
    (hhelpers : ∀ name ∈ helpers, IsWord name.toList) :
    (∀ c ∈ Node.interpolationContent path helpers, Path.IsPathChar c ∨ c = ' ') ∧
      ∀ c ∈ (Node.interpolationContent path helpers).head?, Path.IsPathChar c := by
  induction helpers with
  | nil =>
      refine ⟨fun c hc => Or.inl (hpath.isWord.pathChars c hc), ?_⟩
      intro c hc
      exact hpath.isWord.pathChars c (List.mem_of_mem_head? hc)
  | cons name helpers ih =>
      obtain ⟨hname, hrest⟩ := List.forall_mem_cons.mp hhelpers
      have hcontent : Node.interpolationContent path (name :: helpers) =
          name.toList ++ ' ' :: Node.interpolationContent path helpers := rfl
      rw [hcontent]
      constructor
      · intro c hc
        rcases List.mem_append.mp hc with hc | hc
        · exact Or.inl (hname.pathChars c hc)
        · rcases List.mem_cons.mp hc with rfl | hc
          · exact Or.inr rfl
          · exact (ih hrest).1 c hc
      · intro c hc
        obtain ⟨d, ds, hd⟩ := List.exists_cons_of_ne_nil hname.ne_nil
        rw [hd] at hc
        exact hname.pathChars c (hd ▸ List.mem_of_mem_head? hc)

theorem isPlain_interpolation {path : Path} {helpers : List String} (hpath : path.Valid)
    (hhelpers : ∀ name ∈ helpers, IsWord name.toList) :
    IsPlain (Node.interpolationContent path helpers) where
  trimmed := by
    rw [interpolationContent_eq]
    refine Text.trimmed_spaced ?_ hpath.isWord.isWord
    intro word hword
    obtain ⟨name, hname, rfl⟩ := List.mem_map.mp hword
    exact (hhelpers name hname).isWord
  no_close hmem := by
    rcases (interpolationContent_chars hpath hhelpers).1 _ hmem with h | h
    · exact absurd h (by decide)
    · exact absurd h (by decide)
  no_comment hhead :=
    absurd ((interpolationContent_chars hpath hhelpers).2 _ hhead) (by decide)

variable {known : String → Bool}

theorem form_open (kind : BlockKind) {path : Path} (h : path.Valid) :
    Form known (Node.openContent kind path) (.opening kind path) := by
  have hkeyword : Text.IsWord kind.keyword.toList := by
    rcases kind with (_ | _) | _ <;> exact Text.isWord_of_all (by decide) (by decide)
  have hspace : ' ' ∉ kind.keyword.toList := by
    intro hmem
    exact absurd (hkeyword.not_blank ' ' hmem) (by decide)
  have htrim : Text.trim (kind.keyword.toList ++ ' ' :: path.dotted.toList) =
      kind.keyword.toList ++ ' ' :: path.dotted.toList :=
    (hkeyword.trimmed_between h.isWord.isWord [' ']).trim_eq
  have hsplits : Splits (Text.trim (kind.keyword.toList ++ ' ' :: path.dotted.toList))
      kind.keyword.toList path.dotted.toList := by
    rw [htrim]
    exact .spaced hspace _
  exact .opening hsplits (Text.fields_word h.isWord.ne_nil h.isWord.isWord.not_blank) h

theorem isInterpolation_printed {path : Path} {helpers : List String} (hpath : path.Valid)
    (hhelpers : ∀ name ∈ helpers, IsWord name.toList)
    (hbare : helpers = [] → path.dotted ≠ "else") :
    IsInterpolation (Node.interpolationContent path helpers) where
  ne_else heq := by
    cases helpers with
    | nil => exact hbare rfl (String.toList_inj.mp heq)
    | cons name helpers =>
        have hspace : ' ' ∈ Node.interpolationContent path (name :: helpers) :=
          List.mem_append_right _ (List.mem_cons_self ..)
        rw [heq] at hspace
        exact absurd hspace (by decide)
  ne_opening hhead :=
    absurd ((interpolationContent_chars hpath hhelpers).2 _ hhead) (by decide)
  ne_closing hhead :=
    absurd ((interpolationContent_chars hpath hhelpers).2 _ hhead) (by decide)

theorem form_interpolation {path : Path} {helpers : List String} (hpath : path.Valid)
    (hwords : ∀ name ∈ helpers, IsWord name.toList)
    (hknown : ∀ name ∈ helpers, known name = true)
    (hbare : helpers = [] → path.dotted ≠ "else") :
    Form known (Node.interpolationContent path helpers) (.interpolation path helpers) := by
  refine .interpolation (isInterpolation_printed hpath hwords hbare) ?_ hknown hpath
  rw [interpolationContent_eq]
  refine Text.fields_spaced ?_ hpath.isWord.isWord
  intro word hword
  obtain ⟨name, hname, rfl⟩ := List.mem_map.mp hword
  exact (hwords name hname).isWord

end Tag

/-! ## Printed spans -/

namespace Node

mutual

/-- The spans of what is printed of a node. -/
def spans : Node → List Span
  | .text s _ => [.text s.toList]
  | .interpolation path helpers _ => [.tag (interpolationContent path helpers)]
  | .conditional negated path body otherwise _ =>
    .tag (openContent (.conditional negated) path) :: (spansAll body ++ (spansBranch otherwise ++
      [.tag (closeContent (.conditional negated))]))
  | .loop path body _ =>
    .tag (openContent .loop path) :: (spansAll body ++ [.tag (closeContent .loop)])

def spansAll : List Node → List Span
  | [] => []
  | node :: rest => spans node ++ spansAll rest

def spansBranch : Option (List Node) → List Span
  | none => []
  | some nodes => .tag "else".toList :: spansAll nodes

end

mutual

theorem source_spans (node : Node) : (spans node).flatMap Span.source = source node := by
  cases node with
  | text s pos => simp [spans, source, Span.source]
  | interpolation path helpers pos => simp [spans, source, Span.source, tagSource]
  | conditional negated path body otherwise pos =>
      simp [spans, source, Span.source, tagSource, source_spansAll body,
        source_spansBranch otherwise]
  | loop path body pos => simp [spans, source, Span.source, tagSource, source_spansAll body]

theorem source_spansAll (nodes : List Node) :
    (spansAll nodes).flatMap Span.source = sourceAll nodes := by
  cases nodes with
  | nil => rfl
  | cons node rest =>
      rw [spansAll, sourceAll, List.flatMap_append, source_spans node, source_spansAll rest]

theorem source_spansBranch (branch : Option (List Node)) :
    (spansBranch branch).flatMap Span.source = sourceBranch branch := by
  cases branch with
  | none => rfl
  | some nodes =>
      simp [spansBranch, sourceBranch, Span.source, tagSource, source_spansAll nodes]

end

theorem isText_of_isTag {node : Node} (h : node.IsTag) (more : List Span) :
    ∀ span ∈ (spans node ++ more).head?, ¬span.IsText := by
  cases node with
  | text => exact h.elim
  | interpolation | conditional | loop => simp [spans, Span.IsText]

/-- Spans that can follow those of a list of nodes, with a tag in front or none at all. -/
structure Continues (followed : Bool) (more : List Span) : Prop where
  canonical : Span.Canonical more
  not_text : ∀ span ∈ more.head?, ¬span.IsText
  ends : followed = false → more = []

theorem continues_tag {content : List Char} (h : Tag.IsPlain content) {rest : List Span}
    (hrest : Span.Canonical rest) : Continues true (.tag content :: rest) where
  canonical := h.canonical hrest
  not_text := by simp [Span.IsText]
  ends := by simp

variable {known : String → Bool}

theorem canonical_spansAll (hwords : ∀ name, known name = true → Tag.IsWord name.toList)
    {followed : Bool} {nodes : List Node} (h : WellFormed known followed nodes) {more : List Span}
    (hmore : Continues followed more) : Span.Canonical (spansAll nodes ++ more) := by
  -- only with what comes behind is it settled where the last literal ends
  induction h generalizing more with
  | nil => exact hmore.canonical
  | @text followed s pos rest hne hopen hlast hfirst _ ih =>
      have hhead : ∀ span ∈ (spansAll rest ++ more).head?, ¬span.IsText := by
        cases rest with
        | nil => exact hmore.not_text
        | cons node rest =>
            rw [spansAll, List.append_assoc]
            exact isText_of_isTag (hfirst node rfl) _
      have hend : (spansAll rest ++ more).flatMap Span.source ≠ [] →
          s.toList.getLast? ≠ some '{' := by
        intro hsource
        refine hlast ?_
        by_cases hrest : rest = []
        · subst hrest
          cases followed with
          | true => exact Or.inl rfl
          | false => exact absurd (by simp [spansAll, hmore.ends rfl]) hsource
        · exact Or.inr hrest
      have hclear := (Text.clear_text_iff (Span.source_eq_nil_or_open hhead) s.toList).mpr
        ⟨hopen, hend⟩
      exact .text (by simpa using hne) hclear hhead (ih hmore)
  | interpolation hpath hhelpers _ _ ih =>
      have hplain := Tag.isPlain_interpolation (Path.parse_sound hpath).1
        (fun name hname => hwords name (hhelpers name hname))
      exact hplain.canonical (ih hmore)
  | @conditional _ negated _ _ _ _ hpath _ _ ihbody ihrest =>
      have hopen := Tag.isPlain_open (.conditional negated) (Path.parse_sound hpath).1
      have hclose := Tag.isPlain_close (.conditional negated)
      have hblock := hopen.canonical (ihbody (continues_tag hclose (ihrest hmore)))
      simpa [spansAll, spans, spansBranch] using hblock
  | @conditionalElse _ negated _ _ _ _ _ hpath _ _ _ ihbody ihotherwise ihrest =>
      have hopen := Tag.isPlain_open (.conditional negated) (Path.parse_sound hpath).1
      have hclose := Tag.isPlain_close (.conditional negated)
      have hotherwise := ihotherwise (continues_tag hclose (ihrest hmore))
      have hblock := hopen.canonical (ihbody (continues_tag Tag.isPlain_else hotherwise))
      simpa [spansAll, spans, spansBranch] using hblock
  | loop hpath _ _ ihbody ihrest =>
      have hopen := Tag.isPlain_open .loop (Path.parse_sound hpath).1
      have hclose := Tag.isPlain_close .loop
      have hblock := hopen.canonical (ihbody (continues_tag hclose (ihrest hmore)))
      simpa [spansAll, spans] using hblock

/-! ## The derivation of what is printed -/

theorem place_append (p : Position) (front back : List Span) :
    Token.place p (front ++ back) =
      Token.place p front ++ Token.place (p.advance (front.flatMap Span.source)) back := by
  induction front generalizing p with
  | nil => rfl
  | cons span front ih =>
      rw [List.cons_append, Token.place, Token.place, ih, List.flatMap_cons,
        Position.advance_append]
      cases Token.ofSpan? span <;> rfl

theorem place_tag {content : List Char} (h : Tag.IsPlain content) (p : Position)
    (rest : List Span) : Token.place p (.tag content :: rest) =
      (.tag content, p) :: Token.place (p.advance (Span.tag content).source) rest := by
  rw [Token.place, h.ofSpan?_eq]

theorem sameAll_cons (first second : Node) (rest more : List Node) :
    sameAll (first :: rest) (second :: more) = (same first second && sameAll rest more) := by
  rw [sameAll]

theorem same_text (s : String) (p pos : Position) : same (.text s p) (.text s pos) = true := by
  rw [same, beq_self_eq_true]

theorem glue_text_same {s : String} {p pos : Position} {again nodes : List Node}
    (hsame : sameAll again nodes = true) (hnext : ∀ node ∈ nodes.head?, node.IsTag) :
    sameAll (glue (.text s p) again) (.text s pos :: nodes) = true := by
  have hglue : glue (.text s p) again = .text s p :: again := by
    cases again with
    | nil => rfl
    | cons first again =>
        cases first with
        | interpolation | conditional | loop => rfl
        | text t start =>
            -- a text is only the same as a text, and none comes next
            cases nodes with
            | nil => simp [sameAll] at hsame
            | cons node nodes =>
                cases node with
                | text => exact (hnext _ rfl).elim
                | interpolation | conditional | loop => simp [sameAll, same] at hsame
  rw [hglue, sameAll_cons, same_text, hsame, Bool.and_self]

theorem joined_isTag {node : Node} (h : node.IsTag) : (joined node).IsTag := by
  cases node with
  | text => exact h.elim
  | interpolation | conditional | loop => exact trivial

theorem sameAll_joinedAll_cons {node other : Node} {tree rest : List Node} (htag : node.IsTag)
    (hnode : same (joined node) other = true) (hrest : sameAll (joinedAll tree) rest = true) :
    sameAll (joinedAll (node :: tree)) (other :: rest) = true := by
  rw [joinedAll, glue_of_isTag (joined_isTag htag), sameAll_cons, hnode, hrest, Bool.and_self]

theorem derives_printed (hwords : ∀ name, known name = true → Tag.IsWord name.toList)
    {followed : Bool} {nodes : List Node} (h : WellFormed known followed nodes) (p : Position) :
    ∃ tree, Derives known (Token.place p (spansAll nodes)) tree ∧
      sameAll (joinedAll tree) nodes = true := by
  induction h generalizing p with
  | nil => exact ⟨[], .nil, rfl⟩
  | @text _ s pos rest _ _ _ hnext _ ih =>
      obtain ⟨tree, hderives, hsame⟩ := ih (p.advance s.toList)
      have hplace : Token.place p (spansAll (.text s pos :: rest)) =
          (.text s, p) :: Token.place (p.advance s.toList) (spansAll rest) := by
        simp [spansAll, spans, Token.place, Token.ofSpan?, Span.source]
      rw [hplace]
      exact ⟨_, .text hderives, glue_text_same hsame hnext⟩
  | @interpolation _ path helpers pos rest hpath hhelpers hbare _ ih =>
      have hvalid := (Path.parse_sound hpath).1
      have hnames : ∀ name ∈ helpers, Tag.IsWord name.toList :=
        fun name hname => hwords name (hhelpers name hname)
      have hplain := Tag.isPlain_interpolation hvalid hnames
      have hform := Tag.form_interpolation hvalid hnames hhelpers hbare
      rw [spansAll, spans, List.singleton_append, place_tag hplain]
      obtain ⟨tree, hderives, hsame⟩ := ih _
      refine ⟨_, .interpolation hform hderives, sameAll_joinedAll_cons trivial ?_ hsame⟩
      simp [joined, same]
  | @conditional _ negated path body rest pos hpath _ _ ihbody ihrest =>
      have hvalid := (Path.parse_sound hpath).1
      have hopen := Tag.isPlain_open (.conditional negated) hvalid
      have hclose := Tag.isPlain_close (.conditional negated)
      have hspans : spansAll (.conditional negated path body none pos :: rest) =
          .tag (openContent (.conditional negated) path) :: (spansAll body ++
            (.tag (closeContent (.conditional negated)) :: spansAll rest)) := by
        simp [spansAll, spans, spansBranch]
      rw [hspans, place_tag hopen, place_append, place_tag hclose]
      obtain ⟨inner, hinner, hbody⟩ := ihbody _
      obtain ⟨tree, hderives, hsame⟩ := ihrest _
      refine ⟨_, .conditional (Tag.form_open _ hvalid) hinner (form_closing _) hderives,
        sameAll_joinedAll_cons trivial ?_ hsame⟩
      simp [joined, same, hbody, joinedBranch, sameBranch]
  | @conditionalElse _ negated path body otherwise rest pos hpath _ _ _ ihbody ihotherwise
      ihrest =>
      have hvalid := (Path.parse_sound hpath).1
      have hopen := Tag.isPlain_open (.conditional negated) hvalid
      have hclose := Tag.isPlain_close (.conditional negated)
      have hspans : spansAll (.conditional negated path body (some otherwise) pos :: rest) =
          .tag (openContent (.conditional negated) path) :: (spansAll body ++
            (.tag "else".toList :: (spansAll otherwise ++
              (.tag (closeContent (.conditional negated)) :: spansAll rest)))) := by
        simp [spansAll, spans, spansBranch]
      rw [hspans, place_tag hopen, place_append, place_tag Tag.isPlain_else, place_append,
        place_tag hclose]
      obtain ⟨inner, hinner, hbody⟩ := ihbody _
      obtain ⟨second, hsecond, hotherwise⟩ := ihotherwise _
      obtain ⟨tree, hderives, hsame⟩ := ihrest _
      refine ⟨_, .conditionalElse (Tag.form_open _ hvalid) hinner .orElse hsecond (form_closing _)
        hderives, sameAll_joinedAll_cons trivial ?_ hsame⟩
      simp [joined, same, hbody, hotherwise, joinedBranch, sameBranch]
  | @loop _ path body rest pos hpath _ _ ihbody ihrest =>
      have hvalid := (Path.parse_sound hpath).1
      have hopen := Tag.isPlain_open .loop hvalid
      have hclose := Tag.isPlain_close .loop
      have hspans : spansAll (.loop path body pos :: rest) =
          .tag (openContent .loop path) :: (spansAll body ++
            (.tag (closeContent .loop) :: spansAll rest)) := by
        simp [spansAll, spans]
      rw [hspans, place_tag hopen, place_append, place_tag hclose]
      obtain ⟨inner, hinner, hbody⟩ := ihbody _
      obtain ⟨tree, hderives, hsame⟩ := ihrest _
      refine ⟨_, .loop (Tag.form_open _ hvalid) hinner (form_closing _) hderives,
        sameAll_joinedAll_cons trivial ?_ hsame⟩
      simp [joined, same, hbody]

theorem parse_print (hwords : ∀ name, known name = true → Tag.IsWord name.toList)
    {nodes : List Node} (h : WellFormed known false nodes) :
    ∃ again, parse known (print nodes) = .ok again ∧ sameAll again nodes = true := by
  have hcanonical : Span.Canonical (spansAll nodes) := by
    have hnone : Continues false [] := ⟨.nil, by simp, by simp⟩
    simpa using canonical_spansAll hwords h hnone
  have hscan : Span.scan (print nodes).toList = (spansAll nodes, none) := by
    refine Span.scan_eq_iff.mpr ⟨hcanonical, ?_⟩
    rw [source_spansAll, print, String.toList_ofList]
  have htokens : Token.tokenize (print nodes) = ⟨Token.place .start (spansAll nodes), none⟩ := by
    rw [Token.tokenize, hscan]
    rfl
  obtain ⟨tree, hderives, hsame⟩ := derives_printed hwords h .start
  refine ⟨joinedAll tree, ?_, hsame⟩
  rw [parse, htokens]
  exact TokenStream.parse_eq_ok_iff.mpr ⟨rfl, tree, hderives, rfl⟩

end Node

/-- Printing and parsing are inverse for every set of helpers that can be made: what is parsed is
well formed, what is well formed is parsed again as it was, and so is what was parsed before. -/
theorem print_parse_inverse {list : List Helper} {hs : Helpers}
    (hmade : Helpers.ofList list = .ok hs) :
    (∀ source nodes, Node.parse hs.knows source = .ok nodes →
      Node.WellFormed hs.knows false nodes) ∧
    (∀ nodes, Node.WellFormed hs.knows false nodes → ∃ again,
      Node.parse hs.knows (Node.print nodes) = .ok again ∧ Node.sameAll again nodes = true) ∧
    ∀ source nodes, Node.parse hs.knows source = .ok nodes → ∃ again,
      Node.parse hs.knows (Node.print nodes) = .ok again ∧ Node.sameAll again nodes = true := by
  have hwords : ∀ name, hs.knows name = true → Tag.IsWord name.toList := fun _ hname =>
    Helper.isWord_of_isName ((Helpers.named_of_ofList hmade).isName_of_knows hname)
  refine ⟨?_, ?_, ?_⟩
  · intro source nodes h
    exact Node.wellFormed_of_parse h
  · intro nodes h
    exact Node.parse_print hwords h
  · intro source nodes h
    exact Node.parse_print hwords (Node.wellFormed_of_parse h)

/-- Text with braces around an inverted conditional that has an empty second branch. -/
def braceExample : List Node :=
  [.text "a\x7b-" .start,
    .conditional true ⟨"this", ["0"]⟩ [.interpolation ⟨"name", []⟩ ["upper", "kebabcase"] .start]
      (some []) .start,
    .text "\x7b" .start]

theorem print_parse_inverse_example :
    Helpers.ofList Helpers.standard.list = .ok Helpers.standard ∧
    Node.WellFormed Helpers.standard.knows false braceExample ∧
    ∃ again, Node.parse Helpers.standard.knows (Node.print braceExample) = .ok again ∧
      Node.sameAll again braceExample = true := by
  have hwell : Node.WellFormed Helpers.standard.knows false braceExample := by
    refine .text (by decide) (by decide) (by decide) (by simp [Node.IsTag]) ?_
    refine .conditionalElse (by rfl) ?_ .nil ?_
    · exact .interpolation (by rfl) (by decide) (by decide) .nil
    · exact .text (by decide) (by decide) (by decide) (by simp) .nil
  exact ⟨Helpers.ofList_standard, hwell,
    (print_parse_inverse Helpers.ofList_standard).2.1 braceExample hwell⟩

end Scaffold
