import Scaffold.Proofs.Grammar

namespace Scaffold

/-!
# Parsing follows the grammar

The main statement says what a source is parsed to and what is said of one
that has no template: the first tag after which nothing can be completed,
or the end of the source, with the kind and the place of the flaw.
-/

variable {known : String → Bool}

/-! ## One step -/

/-- What an open frame looks like from outside. -/
def Frame.openBlock (f : Frame) : OpenBlock :=
  ⟨f.kind, f.path, f.position, f.first.isSome⟩

theorem Frame.close_isTag (f : Frame) (branch : List Node) : (f.close branch).IsTag := by
  obtain ⟨kind, path, position, before, first⟩ := f
  cases kind <;> cases first <;> trivial

namespace Place

/-- The blocks that are open at a place, innermost first. -/
def blocks (p : Place) : List OpenBlock :=
  p.frames.map Frame.openBlock

theorem step_text (p : Place) (s : String) (pos : Position) :
    p.step known (.text s, pos) = .ok (p.behind [.text s pos]) := by
  rw [behind_text]
  rfl

theorem step_tag_eq_ok_iff {p q : Place} {content : List Char} {pos : Position} :
    p.step known (.tag content, pos) = .ok q ↔
      ∃ tag, Tag.Form known content tag ∧ p.addTag pos tag = .ok q := by
  simp only [step, ← Tag.read_eq_ok_iff]
  cases Tag.read known content with
  | error flaw => simp [bind, Except.bind]
  | ok tag => cases h : p.addTag pos tag <;> simp [bind, Except.bind, h]

theorem step_tag_eq_error_iff {p : Place} {content : List Char} {pos : Position} {e : ParseError} :
    p.step known (.tag content, pos) = .error e ↔ e.position = pos ∧
      (Tag.Malformed known content e.flaw.kind e.flaw ∨
        ∃ tag, Tag.Form known content tag ∧ p.addTag pos tag = .error e.flaw) := by
  obtain ⟨flaw, position⟩ := e
  simp only [step, ← Tag.read_eq_ok_iff, ← Tag.read_eq_error_iff]
  cases Tag.read known content with
  | error other => simp [bind, Except.bind, eq_comm, and_comm]
  | ok tag => cases h : p.addTag pos tag <;> simp [bind, Except.bind, h, eq_comm, and_comm]

theorem step_interpolation {content : List Char} {path : Path} {helpers : List String}
    (h : Tag.Form known content (.interpolation path helpers)) (p : Place) (pos : Position) :
    p.step known (.tag content, pos) = .ok (p.behind [.interpolation path helpers pos]) := by
  have htag : (Node.interpolation path helpers pos).IsTag := trivial
  rw [behind_of_isTag p htag]
  exact step_tag_eq_ok_iff.mpr ⟨_, h, rfl⟩

theorem step_opening {content : List Char} {kind : BlockKind} {path : Path}
    (h : Tag.Form known content (.opening kind path)) (p : Place) (pos : Position) :
    p.step known (.tag content, pos) = .ok ⟨⟨kind, path, pos, p.nodes, none⟩ :: p.frames, []⟩ :=
  step_tag_eq_ok_iff.mpr ⟨_, h, rfl⟩

theorem step_orElse {content : List Char} (h : Tag.Form known content .orElse) {f : Frame}
    {negated : Bool} (hkind : f.kind = .conditional negated) (hfirst : f.first = none)
    (outer : List Frame) (nodes : List Node) (pos : Position) :
    Place.step known ⟨f :: outer, nodes⟩ (.tag content, pos) =
      .ok ⟨{ f with first := some nodes.reverse } :: outer, []⟩ := by
  refine step_tag_eq_ok_iff.mpr ⟨_, h, ?_⟩
  simp [addTag, hkind, hfirst]

theorem step_closing {content : List Char} {f : Frame}
    (h : Tag.Form known content (.closing f.kind.keyword)) (outer : List Frame)
    (nodes : List Node) (pos : Position) :
    Place.step known ⟨f :: outer, nodes⟩ (.tag content, pos) =
      .ok ⟨outer, f.close nodes.reverse :: f.before⟩ := by
  refine step_tag_eq_ok_iff.mpr ⟨_, h, ?_⟩
  simp [addTag]

/-! ## Runs over many tokens -/

variable (known) in
/-- The place behind tokens. -/
def run (p : Place) (tokens : List PlacedToken) : Except ParseError Place :=
  tokens.foldlM (step known) p

@[simp] theorem run_nil (p : Place) : p.run known [] = .ok p := rfl

theorem run_cons (p : Place) (token : PlacedToken) (tokens : List PlacedToken) :
    p.run known (token :: tokens) = p.step known token >>= (·.run known tokens) :=
  List.foldlM_cons ..

theorem run_cons_of_step {p q : Place} {token : PlacedToken}
    (h : p.step known token = .ok q) (tokens : List PlacedToken) :
    p.run known (token :: tokens) = q.run known tokens := by
  rw [run_cons, h]
  rfl

theorem run_append (p : Place) (tokens more : List PlacedToken) :
    p.run known (tokens ++ more) = p.run known tokens >>= (·.run known more) :=
  List.foldlM_append ..

theorem run_append_of_run {p q : Place} {tokens : List PlacedToken}
    (h : p.run known tokens = .ok q) (more : List PlacedToken) :
    p.run known (tokens ++ more) = q.run known more := by
  rw [run_append, h]
  rfl

/-- A block's closing tag puts its node behind what stood before the block. -/
theorem run_close {content : List Char} {kind : BlockKind}
    (h : Tag.Form known content (.closing kind.keyword)) (path : Path) (start : Position)
    (before : List Node) (first : Option (List Node)) (outer : List Frame) (nodes : List Node)
    (pos : Position) (tokens : List PlacedToken) :
    Place.run known ⟨⟨kind, path, start, before, first⟩ :: outer, nodes⟩
        ((.tag content, pos) :: tokens) =
      (Place.behind ⟨outer, before⟩
        [Frame.close ⟨kind, path, start, before, first⟩ nodes.reverse]).run known tokens := by
  have hstep : Place.step known ⟨⟨kind, path, start, before, first⟩ :: outer, nodes⟩
      (.tag content, pos) = _ := step_closing h outer nodes pos
  rw [run_cons_of_step hstep, behind_of_isTag _ (Frame.close_isTag _ _)]

/-- Derived tokens put their joined nodes behind the place, whatever is open there. -/
theorem run_of_derives {tokens : List PlacedToken} {nodes : List Node}
    (h : Derives known tokens nodes) (p : Place) :
    p.run known tokens = .ok (p.behind (Node.joinedAll nodes)) := by
  -- the place varies, since the nodes of a block are read behind its opening tag
  induction h generalizing p with
  | nil => simp [Node.joinedAll]
  | @text s pos tokens nodes _ ih =>
      rw [run_cons_of_step (step_text p s pos), ih, behind_glue]
      rfl
  | interpolation htag _ ih =>
      rw [run_cons_of_step (step_interpolation htag p _), ih, behind_glue]
      rfl
  | @conditional _ _ negated path pos last inner tokens body nodes hopen _ hclose _ ihbody ihrest =>
      rw [run_cons_of_step (step_opening hopen p pos), run_append_of_run (ihbody _), behind_fresh,
        run_close hclose, ihrest, behind_glue]
      simp [Frame.close, Node.joinedAll, Node.joined, Node.joinedBranch]
  | @conditionalElse _ _ _ negated path pos between last inner second tokens body otherwise nodes
      hopen _ helse _ hclose _ ihbody ihotherwise ihrest =>
      rw [run_cons_of_step (step_opening hopen p pos), run_append_of_run (ihbody _), behind_fresh,
        run_cons_of_step (step_orElse helse rfl rfl _ _ _), run_append_of_run (ihotherwise _),
        behind_fresh, run_close hclose, ihrest, behind_glue]
      simp [Frame.close, Node.joinedAll, Node.joined, Node.joinedBranch]
  | @loop _ _ path pos last inner tokens body nodes hopen _ hclose _ ihbody ihrest =>
      rw [run_cons_of_step (step_opening hopen p pos), run_append_of_run (ihbody _), behind_fresh,
        run_close hclose, ihrest, behind_glue]
      simp [Frame.close, Node.joinedAll, Node.joined]

/-! ## Places and open blocks -/

/-- A step goes from a beginning of a template to a beginning of a template. -/
theorem opens_step {tokens : List PlacedToken} {p q : Place} (h : Opens known tokens p.blocks)
    {token : PlacedToken} (hstep : p.step known token = .ok q) :
    Opens known (tokens ++ [token]) q.blocks := by
  obtain ⟨token | content, pos⟩ := token
  · rw [step_text] at hstep
    cases hstep
    exact h.append (.text .nil)
  · obtain ⟨tag, htag, hadd⟩ := step_tag_eq_ok_iff.mp hstep
    obtain ⟨frames, nodes⟩ := p
    cases tag with
    | interpolation path helpers =>
        cases hadd
        exact h.append (.interpolation htag .nil)
    | opening kind path =>
        cases hadd
        exact .opening h htag .nil
    | orElse =>
        cases frames with
        | nil => simp [addTag] at hadd
        | cons f outer =>
            obtain ⟨kind, path, start, before, first⟩ := f
            cases kind with
            | loop => simp [addTag] at hadd
            | conditional negated =>
                cases first with
                | some body => simp [addTag] at hadd
                | none =>
                    simp only [addTag] at hadd
                    cases hadd
                    exact .orElse h htag .nil
    | closing name =>
        cases frames with
        | nil => simp [addTag] at hadd
        | cons f outer =>
            by_cases hname : name = f.kind.keyword
            · subst hname
              simp only [addTag] at hadd
              cases hadd
              exact h.close htag pos
            · simp [addTag, hname] at hadd

theorem opens_run {before tokens : List PlacedToken} {p q : Place}
    (h : Opens known before p.blocks) (hrun : p.run known tokens = .ok q) :
    Opens known (before ++ tokens) q.blocks := by
  induction tokens generalizing before p with
  | nil =>
      cases hrun
      simpa using h
  | cons token tokens ih =>
      cases hstep : p.step known token with
      | error e =>
          rw [run_cons, hstep] at hrun
          cases hrun
      | ok r =>
          rw [run_cons_of_step hstep] at hrun
          simpa using ih (opens_step h hstep) hrun

/-- Every beginning of a template is read, and the open blocks are found. -/
theorem run_of_opens {tokens : List PlacedToken} {blocks : List OpenBlock}
    (h : Opens known tokens blocks) :
    ∃ p, start.run known tokens = .ok p ∧ p.blocks = blocks := by
  induction h with
  | closed h => exact ⟨_, run_of_derives h start, rfl⟩
  | @opening _ _ _ _ _ _ pos _ _ htag hbody ih =>
      obtain ⟨p, hrun, hblocks⟩ := ih
      have hrest := (run_cons_of_step (step_opening htag p pos) _).trans (run_of_derives hbody _)
      exact ⟨_, (run_append_of_run hrun _).trans hrest, congrArg (_ :: ·) hblocks⟩
  | @orElse _ _ _ _ _ _ _ pos _ _ htag hbody ih =>
      obtain ⟨⟨frames, nodes⟩, hrun, hblocks⟩ := ih
      obtain ⟨f, outer, rfl, hf, houter⟩ := List.map_eq_cons_iff.mp hblocks
      obtain ⟨hkind, hpath, hposition, hfirst⟩ : f.kind = _ ∧ f.path = _ ∧ f.position = _ ∧
          f.first = none := by
        simpa [Frame.openBlock] using hf
      have hrest := (run_cons_of_step (step_orElse htag hkind hfirst outer nodes pos) _).trans
        (run_of_derives hbody _)
      refine ⟨_, (run_append_of_run hrun _).trans hrest, ?_⟩
      simp [Place.blocks, Frame.openBlock, hkind, hpath, hposition, houter]

theorem opens_iff_run {tokens : List PlacedToken} {blocks : List OpenBlock} :
    Opens known tokens blocks ↔ ∃ p, start.run known tokens = .ok p ∧ p.blocks = blocks := by
  refine ⟨run_of_opens, ?_⟩
  rintro ⟨p, hrun, rfl⟩
  have hnil : Opens known [] start.blocks := Opens.nil
  simpa using opens_run hnil hrun

/-- A tag is refused exactly when it offends against the open blocks. -/
theorem step_tag_error_iff_offence {p : Place} {content : List Char} {pos : Position}
    {e : ParseError} : p.step known (.tag content, pos) = .error e ↔
      e.position = pos ∧ Offence known p.blocks content e.flaw.kind e.flaw := by
  rw [step_tag_eq_error_iff]
  refine and_congr_right fun _ => ?_
  obtain ⟨flaw, position⟩ := e
  obtain ⟨frames, nodes⟩ := p
  constructor
  · rintro (hflaw | ⟨tag, htag, hadd⟩)
    · exact .malformed hflaw
    · cases tag with
      | interpolation | opening => simp [addTag] at hadd
      | orElse =>
          cases frames with
          | nil =>
              cases hadd
              exact .elseOutside htag
          | cons f outer =>
              by_cases hkind : f.kind = .loop
              · obtain rfl : Flaw.strayElse = flaw := by simpa [addTag, hkind] using hadd
                exact .elseInLoop htag hkind
              · by_cases hfirst : f.first.isSome = true
                · obtain rfl : Flaw.secondElse f.kind = flaw := by
                    simpa [addTag, hkind, hfirst] using hadd
                  exact .secondElse htag hkind hfirst
                · simp [addTag, hkind, hfirst] at hadd
      | closing name =>
          cases frames with
          | nil =>
              cases hadd
              exact .closeWithoutOpen htag
          | cons f outer =>
              by_cases hname : name = f.kind.keyword
              · simp [addTag, hname] at hadd
              · obtain rfl : Flaw.closeOfOther name f.kind f.position = flaw := by
                  simpa [addTag, hname] using hadd
                exact .closeOfOther htag hname
  · generalize hblocks : Place.blocks ⟨frames, nodes⟩ = blocks
    generalize flaw.kind = sort
    intro h
    cases h with
    | malformed h => exact Or.inl h
    | elseOutside htag =>
        obtain rfl : frames = [] := List.map_eq_nil_iff.mp hblocks
        exact Or.inr ⟨_, htag, rfl⟩
    | elseInLoop htag hkind =>
        obtain ⟨f, outer, rfl, rfl, -⟩ := List.map_eq_cons_iff.mp hblocks
        have hloop : f.kind = .loop := hkind
        exact Or.inr ⟨_, htag, by simp [addTag, hloop]⟩
    | secondElse htag hkind helse =>
        obtain ⟨f, outer, rfl, rfl, -⟩ := List.map_eq_cons_iff.mp hblocks
        have hloop : f.kind ≠ .loop := hkind
        have hfirst : f.first.isSome = true := helse
        exact Or.inr ⟨_, htag, by simp [addTag, hloop, hfirst, Frame.openBlock]⟩
    | closeWithoutOpen htag =>
        obtain rfl : frames = [] := List.map_eq_nil_iff.mp hblocks
        exact Or.inr ⟨_, htag, rfl⟩
    | closeOfOther htag hname =>
        obtain ⟨f, outer, rfl, rfl, -⟩ := List.map_eq_cons_iff.mp hblocks
        have hne : ¬_ = f.kind.keyword := hname
        exact Or.inr ⟨_, htag, by simp [addTag, hne, Frame.openBlock]⟩

/-- Tokens that are refused cannot be completed. -/
theorem not_viable_of_run {tokens : List PlacedToken} {e : ParseError}
    (h : start.run known tokens = .error e) : ¬Viable known tokens := by
  rintro ⟨rest, nodes, hnodes⟩
  have hrun := run_of_derives hnodes start
  rw [run_append, h] at hrun
  cases hrun

/-- A run that fails does so at a tag behind tokens that it reads. -/
theorem run_eq_error {p : Place} {tokens : List PlacedToken} {e : ParseError}
    (h : p.run known tokens = .error e) :
    ∃ before content after q, tokens = before ++ (.tag content, e.position) :: after ∧
      p.run known before = .ok q ∧ q.step known (.tag content, e.position) = .error e := by
  induction tokens generalizing p with
  | nil => cases h
  | cons token tokens ih =>
      cases hstep : p.step known token with
      | ok q =>
          rw [run_cons_of_step hstep] at h
          obtain ⟨before, content, after, r, rfl, hrun, hlast⟩ := ih h
          exact ⟨token :: before, content, after, r, rfl,
            (run_cons_of_step hstep before).trans hrun, hlast⟩
      | error e' =>
          rw [run_cons, hstep] at h
          obtain rfl : e' = e := by simpa [bind, Except.bind] using h
          obtain ⟨token | content, pos⟩ := token
          · rw [step_text] at hstep
            cases hstep
          · obtain rfl := (step_tag_eq_error_iff.mp hstep).1
            exact ⟨[], content, tokens, p, rfl, rfl, hstep⟩

theorem finish_eq_ok_iff {p : Place} {nodes : List Node} :
    p.finish = .ok nodes ↔ p.frames = [] ∧ p.nodes.reverse = nodes := by
  obtain ⟨frames, read⟩ := p
  cases frames <;> simp [finish]

theorem finish_eq_error_iff {p : Place} {e : ParseError} :
    p.finish = .error e ↔
      ∃ b blocks, p.blocks = b :: blocks ∧ e = ⟨.unclosedBlock b.kind b.path, b.position⟩ := by
  obtain ⟨frames, read⟩ := p
  cases frames with
  | nil => simp [finish, blocks]
  | cons f outer => simp [finish, blocks, Frame.openBlock, eq_comm]

end Place

/-! ## Whole sources -/

namespace TokenStream

theorem parse_eq_run (stream : TokenStream) :
    stream.parse known = (do
      let place ← Place.start.run known stream.tokens
      match stream.unclosed with
      | some (what, pos) => .error ⟨.unclosed what, pos⟩
      | none => place.finish) := rfl

/-- A stream is parsed exactly when nothing is left open in it and its tokens are derived. -/
theorem parse_eq_ok_iff {stream : TokenStream} {nodes : List Node} :
    stream.parse known = .ok nodes ↔ stream.unclosed = none ∧
      ∃ tree, Derives known stream.tokens tree ∧ nodes = Node.joinedAll tree := by
  constructor
  · intro h
    rw [parse_eq_run] at h
    cases hrun : Place.start.run known stream.tokens with
    | error e =>
        rw [hrun] at h
        cases h
    | ok p =>
        rw [hrun] at h
        cases hopen : stream.unclosed with
        | some u => simp [bind, Except.bind, hopen] at h
        | none =>
            have hfinish : p.finish = .ok nodes := by
              simpa [bind, Except.bind, hopen] using h
            obtain ⟨hframes, hnodes⟩ := Place.finish_eq_ok_iff.mp hfinish
            have hopens := Place.opens_iff_run.mpr ⟨p, hrun, rfl⟩
            rw [Place.blocks, hframes] at hopens
            obtain ⟨tree, htree⟩ := hopens.derives
            -- a run without open blocks is that of a derivation, so the places agree
            rw [Place.run_of_derives htree] at hrun
            cases hrun
            exact ⟨rfl, tree, htree, by simpa [Place.behind, Place.start] using hnodes.symm⟩
  · rintro ⟨hopen, tree, htree, rfl⟩
    have hfinish : (Place.start.behind (Node.joinedAll tree)).finish =
        .ok (Node.joinedAll tree) :=
      Place.finish_eq_ok_iff.mpr ⟨rfl, by simp [Place.behind, Place.start]⟩
    rw [parse_eq_run, Place.run_of_derives htree, hopen]
    exact hfinish

/-- A stream is refused for its first flaw. -/
theorem parse_eq_error_iff {stream : TokenStream} {e : ParseError} :
    stream.parse known = .error e ↔ FirstFlaw known stream e.flaw.kind e := by
  rw [parse_eq_run]
  constructor
  · intro h
    cases hrun : Place.start.run known stream.tokens with
    | error e' =>
        rw [hrun] at h
        obtain rfl : e' = e := by simpa [bind, Except.bind] using h
        obtain ⟨before, content, after, q, htokens, hbefore, hstep⟩ := Place.run_eq_error hrun
        have hblocks : Opens known before q.blocks := Place.opens_iff_run.mpr ⟨q, hbefore, rfl⟩
        have hlast :
            Place.start.run known (before ++ [(.tag content, e'.position)]) = .error e' := by
          rw [Place.run_append_of_run hbefore, Place.run_cons, hstep]
          rfl
        exact .tag htokens hblocks.viable (Place.not_viable_of_run hlast) hblocks
          (Place.step_tag_error_iff_offence.mp hstep).2
    | ok p =>
        have hblocks : Opens known stream.tokens p.blocks :=
          Place.opens_iff_run.mpr ⟨p, hrun, rfl⟩
        rw [hrun] at h
        cases hopen : stream.unclosed with
        | some u =>
            obtain ⟨what, pos⟩ := u
            obtain rfl : ParseError.mk (.unclosed what) pos = e := by
              simpa [bind, Except.bind, hopen] using h
            exact .unclosed hblocks hopen
        | none =>
            have hfinish : p.finish = .error e := by
              simpa [bind, Except.bind, hopen] using h
            obtain ⟨b, blocks, hp, rfl⟩ := Place.finish_eq_error_iff.mp hfinish
            rw [hp] at hblocks
            exact .unclosedBlock hblocks hopen
  · generalize hkind : e.flaw.kind = kind
    intro h
    cases h with
    | @tag before after blocks content pos _ flaw htokens _ _ hblocks hflaw =>
        obtain ⟨q, hbefore, rfl⟩ := Place.run_of_opens hblocks
        have hstep : q.step known (.tag content, pos) = .error ⟨flaw, pos⟩ := by
          rw [Place.step_tag_error_iff_offence]
          exact ⟨rfl, hkind ▸ hflaw⟩
        rw [htokens, Place.run_append_of_run hbefore, Place.run_cons, hstep]
        rfl
    | unclosed hblocks hopen =>
        obtain ⟨p, hrun, -⟩ := Place.run_of_opens hblocks
        rw [hrun, hopen]
        rfl
    | unclosedBlock hblocks hclosed =>
        obtain ⟨p, hrun, hp⟩ := Place.run_of_opens hblocks
        rw [hrun, hclosed]
        exact Place.finish_eq_error_iff.mpr ⟨_, _, hp, rfl⟩

end TokenStream

variable (known) in
/-- A source is parsed exactly when all of it falls into tokens that are derived as a list of
nodes, and the template is that list with no two texts meeting. A source that is refused is refused
for its first flaw. -/
theorem parse_follows_grammar (source : String) :
    (∀ nodes, Node.parse known source = .ok nodes ↔ (Token.tokenize source).unclosed = none ∧
      ∃ tree, Derives known (Token.tokenize source).tokens tree ∧ nodes = Node.joinedAll tree) ∧
    ∀ e, Node.parse known source = .error e ↔
      FirstFlaw known (Token.tokenize source) e.flaw.kind e :=
  ⟨fun _ => TokenStream.parse_eq_ok_iff, fun _ => TokenStream.parse_eq_error_iff⟩

end Scaffold
