import Scaffold.Proofs.Seams
import Scaffold.Proofs.TagSyntax

namespace Scaffold

/-!
# The grammar of templates

`Derives` says which token lists are templates and what they are derived
as. `Opens` says which token lists begin a template and which blocks they
leave open. The parser's stack is read as the list of open blocks, and one
step of the parser is one step of `Opens`; at the end of a source the two
relations say which templates there are and what the first flaw is.
-/

/-- A token with the position at which it starts. -/
abbrev PlacedToken := Token × Position

variable {known : String → Bool}

variable (known) in
/-- Tokens that are derived as a list of nodes: texts, interpolations and blocks in any order,
each block closed by the tag of its own kind and only conditionals with a second branch. -/
inductive Derives : List PlacedToken → List Node → Prop
  | nil : Derives [] []
  | text {s : String} {pos : Position} {tokens : List PlacedToken} {nodes : List Node}
      (hrest : Derives tokens nodes) : Derives ((.text s, pos) :: tokens) (.text s pos :: nodes)
  | interpolation {content : List Char} {path : Path} {helpers : List String} {pos : Position}
      {tokens : List PlacedToken} {nodes : List Node}
      (htag : Tag.Form known content (.interpolation path helpers)) (hrest : Derives tokens nodes) :
      Derives ((.tag content, pos) :: tokens) (.interpolation path helpers pos :: nodes)
  | conditional {opened closed : List Char} {negated : Bool} {path : Path} {pos last : Position}
      {inner tokens : List PlacedToken} {body nodes : List Node}
      (hopen : Tag.Form known opened (.opening (.conditional negated) path))
      (hbody : Derives inner body)
      (hclose : Tag.Form known closed (.closing (BlockKind.conditional negated).keyword))
      (hrest : Derives tokens nodes) :
      Derives ((.tag opened, pos) :: (inner ++ (.tag closed, last) :: tokens))
        (.conditional negated path body none pos :: nodes)
  | conditionalElse {opened middle closed : List Char} {negated : Bool} {path : Path}
      {pos between last : Position} {inner second tokens : List PlacedToken}
      {body otherwise nodes : List Node}
      (hopen : Tag.Form known opened (.opening (.conditional negated) path))
      (hbody : Derives inner body) (helse : Tag.Form known middle .orElse)
      (hotherwise : Derives second otherwise)
      (hclose : Tag.Form known closed (.closing (BlockKind.conditional negated).keyword))
      (hrest : Derives tokens nodes) :
      Derives ((.tag opened, pos) ::
          (inner ++ (.tag middle, between) :: (second ++ (.tag closed, last) :: tokens)))
        (.conditional negated path body (some otherwise) pos :: nodes)
  | loop {opened closed : List Char} {path : Path} {pos last : Position}
      {inner tokens : List PlacedToken} {body nodes : List Node}
      (hopen : Tag.Form known opened (.opening .loop path)) (hbody : Derives inner body)
      (hclose : Tag.Form known closed (.closing BlockKind.loop.keyword))
      (hrest : Derives tokens nodes) :
      Derives ((.tag opened, pos) :: (inner ++ (.tag closed, last) :: tokens))
        (.loop path body pos :: nodes)

theorem Derives.append {tokens more : List PlacedToken} {nodes rest : List Node}
    (h : Derives known tokens nodes) (hmore : Derives known more rest) :
    Derives known (tokens ++ more) (nodes ++ rest) := by
  induction h with
  | nil => exact hmore
  | text _ ih => exact .text ih
  | interpolation htag _ ih => exact .interpolation htag ih
  | conditional hopen hbody hclose _ _ ih =>
      simpa using Derives.conditional hopen hbody hclose ih
  | conditionalElse hopen hbody helse hotherwise hclose _ _ _ ih =>
      simpa using Derives.conditionalElse hopen hbody helse hotherwise hclose ih
  | loop hopen hbody hclose _ _ ih =>
      simpa using Derives.loop hopen hbody hclose ih

/-! ## Beginnings of templates -/

/-- A block that is not closed yet. -/
structure OpenBlock where
  kind : BlockKind
  path : Path
  position : Position
  /-- Has the second branch begun? -/
  inElse : Bool
  deriving DecidableEq, Repr

variable (known) in
/-- Tokens that begin a template and the blocks that they leave open, innermost first. -/
inductive Opens : List PlacedToken → List OpenBlock → Prop
  | closed {tokens : List PlacedToken} {nodes : List Node} (h : Derives known tokens nodes) :
      Opens tokens []
  | opening {before tokens : List PlacedToken} {blocks : List OpenBlock} {content : List Char}
      {kind : BlockKind} {path : Path} {pos : Position} {nodes : List Node}
      (hbefore : Opens before blocks) (htag : Tag.Form known content (.opening kind path))
      (hbody : Derives known tokens nodes) :
      Opens (before ++ (.tag content, pos) :: tokens) (⟨kind, path, pos, false⟩ :: blocks)
  | orElse {before tokens : List PlacedToken} {blocks : List OpenBlock} {content : List Char}
      {negated : Bool} {path : Path} {start pos : Position} {nodes : List Node}
      (hbefore : Opens before (⟨.conditional negated, path, start, false⟩ :: blocks))
      (htag : Tag.Form known content .orElse) (hbody : Derives known tokens nodes) :
      Opens (before ++ (.tag content, pos) :: tokens)
        (⟨.conditional negated, path, start, true⟩ :: blocks)

variable (known) in
/-- Tokens that some further tokens complete to a template. -/
def Viable (tokens : List PlacedToken) : Prop :=
  ∃ rest nodes, Derives known (tokens ++ rest) nodes

theorem Opens.append {tokens more : List PlacedToken} {blocks : List OpenBlock} {nodes : List Node}
    (h : Opens known tokens blocks) (hmore : Derives known more nodes) :
    Opens known (tokens ++ more) blocks := by
  cases h with
  | closed h => exact .closed (h.append hmore)
  | opening hbefore htag hbody =>
      simpa only [List.append_assoc, List.cons_append] using
        Opens.opening hbefore htag (hbody.append hmore)
  | orElse hbefore htag hbody =>
      simpa only [List.append_assoc, List.cons_append] using
        Opens.orElse hbefore htag (hbody.append hmore)

theorem Opens.nil : Opens known [] [] := .closed .nil

theorem Opens.derives {tokens : List PlacedToken} (h : Opens known tokens []) :
    ∃ nodes, Derives known tokens nodes := by
  cases h with
  | closed h => exact ⟨_, h⟩

/-- The closing tag of the innermost block completes it. -/
theorem Opens.close {tokens : List PlacedToken} {b : OpenBlock} {blocks : List OpenBlock}
    (h : Opens known tokens (b :: blocks)) {content : List Char}
    (htag : Tag.Form known content (.closing b.kind.keyword)) (pos : Position) :
    Opens known (tokens ++ [(.tag content, pos)]) blocks := by
  cases h with
  | @opening _ inner _ opened kind path start body hbefore hopen hbody =>
      have hblock : ∃ node, Derives known
          ((.tag opened, start) :: (inner ++ [(.tag content, pos)])) [node] := by
        cases kind with
        | conditional negated => exact ⟨_, .conditional hopen hbody htag .nil⟩
        | loop => exact ⟨_, .loop hopen hbody htag .nil⟩
      obtain ⟨node, hnode⟩ := hblock
      simpa using hbefore.append hnode
  | @orElse _ second _ middle _ _ start between otherwise hbefore helse hotherwise =>
      cases hbefore with
      | @opening _ inner _ opened _ _ _ _ hfront hopen hbody =>
          have hnode : ∃ node, Derives known ((.tag opened, start) ::
              (inner ++ (.tag middle, between) :: (second ++ [(.tag content, pos)]))) [node] :=
            ⟨_, .conditionalElse hopen hbody helse hotherwise htag .nil⟩
          obtain ⟨node, hnode⟩ := hnode
          simpa using hfront.append hnode

theorem form_closing (kind : BlockKind) :
    Tag.Form known ('/' :: kind.keyword.toList) (.closing kind.keyword) := by
  have htrim : Text.trim kind.keyword.toList = kind.keyword.toList := by
    rcases kind with (_ | _) | _ <;> decide
  have hform : Tag.Form known ('/' :: kind.keyword.toList)
      (.closing (String.ofList (Text.trim kind.keyword.toList))) := .closing _
  rwa [htrim, String.ofList_toList] at hform

/-- Closing the open blocks one by one completes the template. -/
theorem Opens.viable {tokens : List PlacedToken} {blocks : List OpenBlock}
    (h : Opens known tokens blocks) : Viable known tokens := by
  induction blocks generalizing tokens with
  | nil =>
      obtain ⟨nodes, hnodes⟩ := h.derives
      exact ⟨[], nodes, by simpa using hnodes⟩
  | cons b blocks ih =>
      obtain ⟨rest, nodes, hrest⟩ := ih (h.close (form_closing b.kind) .start)
      exact ⟨_, nodes, by simpa using hrest⟩

/-! ## Flaws -/

variable (known) in
/-- What is wrong with a tag behind tokens that leave the given blocks open. -/
inductive Offence : List OpenBlock → List Char → FlawKind → Flaw → Prop
  | malformed {blocks : List OpenBlock} {content : List Char} {kind : FlawKind} {flaw : Flaw}
      (h : Tag.Malformed known content kind flaw) : Offence blocks content kind flaw
  | elseOutside {content : List Char} (htag : Tag.Form known content .orElse) :
      Offence [] content .misplacedElse .strayElse
  | elseInLoop {content : List Char} {b : OpenBlock} {blocks : List OpenBlock}
      (htag : Tag.Form known content .orElse) (hkind : b.kind = .loop) :
      Offence (b :: blocks) content .misplacedElse .strayElse
  | secondElse {content : List Char} {b : OpenBlock} {blocks : List OpenBlock}
      (htag : Tag.Form known content .orElse) (hkind : b.kind ≠ .loop) (helse : b.inElse = true) :
      Offence (b :: blocks) content .misplacedElse (.secondElse b.kind)
  | closeWithoutOpen {content : List Char} {name : String}
      (htag : Tag.Form known content (.closing name)) :
      Offence [] content .mismatchedBlock (.closeWithoutOpen name)
  | closeOfOther {content : List Char} {name : String} {b : OpenBlock} {blocks : List OpenBlock}
      (htag : Tag.Form known content (.closing name)) (hname : name ≠ b.kind.keyword) :
      Offence (b :: blocks) content .mismatchedBlock (.closeOfOther name b.kind b.position)

variable (known) in
/-- The first flaw of a token stream. Either it is a tag that ends every hope of a template while
the tokens in front of it do not, or all tokens begin a template and the source ends too early:
inside a tag or a comment, or with a block open. -/
inductive FirstFlaw (stream : TokenStream) : FlawKind → ParseError → Prop
  | tag {before after : List PlacedToken} {blocks : List OpenBlock} {content : List Char}
      {pos : Position} {kind : FlawKind} {flaw : Flaw}
      (htokens : stream.tokens = before ++ (.tag content, pos) :: after)
      (hbefore : Viable known before) (hfirst : ¬Viable known (before ++ [(.tag content, pos)]))
      (hblocks : Opens known before blocks) (hflaw : Offence known blocks content kind flaw) :
      FirstFlaw stream kind ⟨flaw, pos⟩
  | unclosed {blocks : List OpenBlock} {what : Unclosed} {pos : Position}
      (hblocks : Opens known stream.tokens blocks) (hopen : stream.unclosed = some (what, pos)) :
      FirstFlaw stream .unterminatedTag ⟨.unclosed what, pos⟩
  | unclosedBlock {b : OpenBlock} {blocks : List OpenBlock}
      (hblocks : Opens known stream.tokens (b :: blocks)) (hclosed : stream.unclosed = none) :
      FirstFlaw stream .unterminatedBlock ⟨.unclosedBlock b.kind b.path, b.position⟩

end Scaffold
