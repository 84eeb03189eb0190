import Scaffold.Proofs.Concatenation
import Scaffold.Proofs.Partition

namespace Scaffold

/-!
# Comments

A comment leaves no token. Where it is put between the tags of a source the
texts on both sides of it become one, as they were without it, and what
stands behind it is moved. The source is cut in two at this offset: both
parts are read alone, so they are read in the same way with the comment
between them.
-/

namespace Text

/-- The characters put in at the offset. -/
def insertAt (s : List Char) (offset : Nat) (chars : List Char) : List Char :=
  s.take offset ++ (chars ++ s.drop offset)

theorem insertAt_append (s t chars : List Char) :
    insertAt (s ++ t) s.length chars = s ++ (chars ++ t) := by
  rw [insertAt, List.take_left, List.drop_left]

end Text

namespace Span

/-! ## Comments -/

/-- A comment of either form. A short one ends at the first two braces, and it does not begin like a
long one; a long one ends at the first two hyphens and braces. -/
def IsComment : Span → Prop
  | .text _ => False
  | .tag inner => ∃ note, inner = '!' :: note ∧ ¬['-', '-'] <+: note ∧
      ¬['}', '}'] <:+: note ∧ note.getLast? ≠ some '}'
  | .longComment inner => ¬['-', '-', '}', '}'] <:+: inner

variable {span : Span}

theorem IsComment.ofSpan?_eq (h : span.IsComment) : Token.ofSpan? span = none := by
  cases span with
  | text => exact h.elim
  | longComment => rfl
  | tag inner =>
      obtain ⟨note, rfl, -⟩ := h
      simp [Token.ofSpan?, Text.head?_trim_cons (c := '!') (by decide) note]

/-- A comment is read in front of what was read alone. -/
theorem IsComment.canonical_cons (h : span.IsComment) {back : List Span}
    (hback : Canonical back) : Canonical (span :: back) := by
  cases span with
  | text => exact h.elim
  | longComment inner => exact .longComment ((Text.clear_long_iff inner _).mpr h) hback
  | tag inner =>
      obtain ⟨note, rfl, hshort, hclosed, hlast⟩ := h
      refine .tag (by simpa [List.cons_prefix_cons] using hshort) ?_ hback
      refine (Text.clear_double_iff '}' _ _).mpr ⟨?_, ?_⟩
      · rw [List.infix_cons_iff, not_or]
        exact ⟨by simp [List.cons_prefix_cons], hclosed⟩
      · rw [List.getLast?_cons]
        cases hnote : note.getLast? with
        | none => simp
        | some c => simpa [hnote] using hlast

/-! ## Offsets outside of tags and comments -/

/-- The offset is at a boundary of the spans or inside a text. -/
inductive Outside : List Span → Nat → Prop
  | start (spans : List Span) : Outside spans 0
  | within {chars : List Char} {offset : Nat} (hoffset : offset ≤ chars.length)
      (rest : List Span) : Outside (.text chars :: rest) offset
  | behind (span : Span) {rest : List Span} {offset : Nat} (hrest : Outside rest offset) :
      Outside (span :: rest) (span.source.length + offset)

/-- Spans up to the offset and spans from there on, each read alone. -/
structure Cut (spans : List Span) (offset : Nat) (front back : List Span) : Prop where
  canonical_front : Canonical front
  canonical_back : Canonical back
  source_eq : front.flatMap source ++ back.flatMap source = spans.flatMap source
  length_eq : (front.flatMap source).length = offset
  head_isText : ∀ first ∈ front.head?, first.IsText → ∃ span ∈ spans.head?, span.IsText

theorem Cut.cons {rest front back : List Span} {offset : Nat} (h : Cut rest offset front back)
    (hfront : Canonical (span :: front)) :
    Cut (span :: rest) (span.source.length + offset) (span :: front) back where
  canonical_front := hfront
  canonical_back := h.canonical_back
  source_eq := by rw [List.flatMap_cons, List.append_assoc, h.source_eq, List.flatMap_cons]
  length_eq := by rw [List.flatMap_cons, List.length_append, h.length_eq]
  head_isText first hfirst htext := ⟨first, hfirst, htext⟩

theorem exists_cut_text {s t : List Char} {rest : List Span}
    (h : Canonical (.text (s ++ t) :: rest)) :
    ∃ front back, Cut (.text (s ++ t) :: rest) s.length front back := by
  cases h with
  | text _ hclear hnext hrest =>
      obtain ⟨hopen, -⟩ := (Text.clear_text_iff (source_eq_nil_or_open hnext) _).mp hclear
      have hs : Text.Clear ['{', '{'] [] s := by
        refine (Text.clear_end_iff (List.cons_ne_nil _ _) s).mpr fun hinfix => hopen ?_
        exact hinfix.trans (List.prefix_append s t).isInfix
      obtain ⟨-, ht⟩ := (Text.clear_append_iff ..).mp hclear
      -- a part without characters is no span
      obtain ⟨front, hfront, hsource, hhead⟩ : ∃ front, Canonical front ∧
          front.flatMap source = s ∧ ∀ first ∈ front.head?, first = .text s := by
        by_cases hne : s = []
        · exact ⟨[], .nil, hne.symm, by simp⟩
        · exact ⟨[.text s], .text hne hs (by simp) .nil, by simp [source], by simp⟩
      obtain ⟨back, hback, hsource'⟩ : ∃ back, Canonical back ∧
          back.flatMap source = t ++ rest.flatMap source := by
        by_cases hne : t = []
        · exact ⟨rest, hrest, by rw [hne, List.nil_append]⟩
        · exact ⟨.text t :: rest, .text hne ht hnext hrest, rfl⟩
      refine ⟨front, back, hfront, hback, ?_, by rw [hsource], ?_⟩
      · rw [hsource, hsource', List.flatMap_cons, source, List.append_assoc]
      · intro first hfirst htext
        exact ⟨_, rfl, trivial⟩

theorem Canonical.exists_cut {spans : List Span} {offset : Nat} (hspans : Canonical spans)
    (h : Outside spans offset) : ∃ front back, Cut spans offset front back := by
  induction h with
  | start spans => exact ⟨[], spans, .nil, hspans, rfl, rfl, by simp⟩
  | @within chars offset hoffset rest =>
      obtain ⟨s, t, rfl, rfl⟩ : ∃ s t, chars = s ++ t ∧ offset = s.length :=
        ⟨chars.take offset, chars.drop offset, by simp, by simp [hoffset]⟩
      exact exists_cut_text hspans
  | behind span hrest ih =>
      cases hspans with
      | @text chars rest hne hclear hnext hcanonical =>
          obtain ⟨front, back, hcut⟩ := ih hcanonical
          obtain ⟨hopen, hlast⟩ := (Text.clear_text_iff (source_eq_nil_or_open hnext) _).mp hclear
          have hnext' : ∀ first ∈ front.head?, ¬first.IsText := by
            intro first hfirst htext
            obtain ⟨span, hspan, hspantext⟩ := hcut.head_isText first hfirst htext
            exact hnext span hspan hspantext
          have hclear' : Text.Clear ['{', '{'] (front.flatMap source) chars := by
            refine (Text.clear_text_iff (source_eq_nil_or_open hnext') _).mpr ⟨hopen, fun h => ?_⟩
            apply hlast
            rw [← hcut.source_eq]
            exact List.append_ne_nil_of_left_ne_nil h _
          exact ⟨_, back, hcut.cons (.text hne hclear' hnext' hcut.canonical_front)⟩
      | tag hshort hclear hcanonical =>
          obtain ⟨front, back, hcut⟩ := ih hcanonical
          have hclear' := Text.Clear.of_mark ['}', '}'] hclear (front.flatMap source)
          exact ⟨_, back, hcut.cons (.tag hshort hclear' hcut.canonical_front)⟩
      | longComment hclear hcanonical =>
          obtain ⟨front, back, hcut⟩ := ih hcanonical
          have hclear' := Text.Clear.of_mark ['-', '-', '}', '}'] hclear (front.flatMap source)
          exact ⟨_, back, hcut.cons (.longComment hclear' hcut.canonical_front)⟩

/-- Both parts are scanned as before, without a comment between them and with one. -/
theorem Cut.scan_comment {spans front back : List Span} {offset : Nat} {comment : Span}
    (h : Cut spans offset front back) (hbrace : (front.flatMap source).getLast? ≠ some '{')
    (hcomment : comment.IsComment) :
    scan (front.flatMap source ++ back.flatMap source) = (seam front back, none) ∧
      scan (Text.insertAt (front.flatMap source ++ back.flatMap source)
        (front.flatMap source).length comment.source) = (seam front (comment :: back), none) := by
  have hfront : scan (front.flatMap source) = (front, none) :=
    scan_eq_iff.mpr ⟨h.canonical_front, rfl⟩
  have hback : scan (back.flatMap source) = (back, none) :=
    scan_eq_iff.mpr ⟨h.canonical_back, rfl⟩
  have hbehind : scan (comment.source ++ back.flatMap source) = (comment :: back, none) :=
    scan_eq_iff.mpr ⟨hcomment.canonical_cons h.canonical_back, rfl⟩
  have hmeets (t : List Char) : Text.Meets (front.flatMap source) t := fun hboth => hbrace hboth.1
  rw [Text.insertAt_append]
  exact ⟨scan_append hfront hback (hmeets _), scan_append hfront hbehind (hmeets _)⟩

end Span

/-! ## Moved positions -/

/-- The position in the source with the characters put in at the offset. -/
def Position.spread (source : List Char) (offset : Nat) (chars : List Char)
    (p : Position) : Position :=
  if p.offset < offset then p
  else ofOffset (Text.insertAt source offset chars) (p.offset + chars.length)

theorem Position.spread_inside (source chars : List Char) {offset : Nat} {before : List Char}
    (h : before.length < offset) :
    (start.advance before).spread source offset chars = start.advance before := by
  rw [spread, if_pos]
  simpa [start] using h

theorem Position.spread_behind (s chars passed rest : List Char) :
    (start.advance (s ++ passed)).spread (s ++ (passed ++ rest)) s.length chars =
      start.advance (s ++ (chars ++ passed)) := by
  have hoffset : (start.advance (s ++ passed)).offset = s.length + passed.length := by
    simp [start]
  have hlength : s.length + passed.length + chars.length = (s ++ (chars ++ passed)).length := by
    simp
    omega
  have hsource : s ++ (chars ++ (passed ++ rest)) = s ++ (chars ++ passed) ++ rest := by simp
  rw [spread, if_neg (by omega), hoffset, hlength, Text.insertAt_append, hsource, ofOffset_length]

namespace Token

/-- Tokens of the same spans, at other positions. -/
theorem place_map {f : Position → Position} {p q : Position} {spans : List Span}
    (h : ∀ before span after, spans = before ++ span :: after →
      f (p.advance (before.flatMap Span.source)) = q.advance (before.flatMap Span.source)) :
    (place p spans).map (Prod.map id f) = place q spans := by
  induction spans generalizing p q with
  | nil => rfl
  | cons span rest ih =>
      have hhere : f p = q := h [] span rest rfl
      have hbehind : ∀ before next after, rest = before ++ next :: after →
          f ((p.advance span.source).advance (before.flatMap Span.source)) =
            (q.advance span.source).advance (before.flatMap Span.source) := by
        intro before next after hspans
        have hnext := h (span :: before) next after (by rw [hspans, List.cons_append])
        simpa using hnext
      have hrest := ih hbehind
      rw [place, place, ← hrest]
      cases ofSpan? span with
      | none => rfl
      | some token => simp [hhere]

/-- Between the tokens of two parts there is none of a comment. -/
theorem place_comment {front back : List Span} {comment : Span} (hfront : Span.Canonical front)
    (hcomment : comment.IsComment) :
    (place .start (front ++ back)).map (Prod.map id
        (Position.spread (front.flatMap Span.source ++ back.flatMap Span.source)
          (front.flatMap Span.source).length comment.source)) =
      place .start (front ++ comment :: back) := by
  rw [Node.place_append, Node.place_append, place, hcomment.ofSpan?_eq, List.map_append]
  congr 1
  · apply place_map
    rintro before span after rfl
    have hspan := List.length_pos_of_ne_nil (hfront.nonempty_of_mem span (by simp))
    apply Position.spread_inside
    rw [List.flatMap_append, List.flatMap_cons, List.length_append, List.length_append]
    omega
  · apply place_map
    rintro before span after rfl
    rw [List.flatMap_append, ← Position.advance_append, Position.spread_behind,
      Position.advance_append, Position.advance_append]

end Token

namespace Node

variable {known : String → Bool}

theorem parse_insertAt {source : String} {nodes : List Node} {offset : Nat} {comment : Span}
    (hparse : parse known source = .ok nodes)
    (houtside : Span.Outside (Span.scan source.toList).1 offset)
    (hbrace : (source.toList.take offset).getLast? ≠ some '{') (hcomment : comment.IsComment) :
    parse known (String.ofList (Text.insertAt source.toList offset comment.source)) =
      .ok (movedAll (Position.spread source.toList offset comment.source) nodes) := by
  obtain ⟨spans, _, hscan, -, -⟩ := exists_spans_of_parse hparse
  rw [hscan] at houtside
  obtain ⟨hspans, hsource⟩ := Span.scan_eq_iff.mp hscan
  obtain ⟨front, back, hcut⟩ := hspans.exists_cut houtside
  have hparts : source.toList = front.flatMap Span.source ++ back.flatMap Span.source := by
    rw [hcut.source_eq, hsource]
  have hoffset := hcut.length_eq
  rw [hparts, ← hoffset, List.take_left] at hbrace
  obtain ⟨hwithout, hwith⟩ := hcut.scan_comment hbrace hcomment
  rw [← hparts] at hwithout
  rw [← hparts, hoffset] at hwith
  -- the tokens of both parts are read as before; those of the second part are moved
  rw [parse_eq_of_seam hwithout] at hparse
  obtain ⟨-, tree, htree, rfl⟩ := TokenStream.parse_eq_ok_iff.mp hparse
  rw [← String.toList_ofList (l := Text.insertAt source.toList offset comment.source)] at hwith
  rw [parse_eq_of_seam hwith, ← joinedAll_moved]
  refine TokenStream.parse_eq_ok_iff.mpr ⟨rfl, _, ?_, rfl⟩
  rw [← Token.place_comment hcut.canonical_front hcomment, ← hparts, hoffset]
  exact htree.moved _

end Node

/-- A comment that is put into a source outside of its tags and comments, and not behind a brace,
changes nothing but positions: those from the offset on are further behind by the comment. What
renders renders to the same text, and what fails fails in the same way at the moved position. -/
theorem comments_are_invisible {known : String → Bool} {source : String} {nodes : List Node}
    {offset : Nat} {comment : Span} (hparse : Node.parse known source = .ok nodes)
    (houtside : Span.Outside (Span.scan source.toList).1 offset)
    (hbrace : (source.toList.take offset).getLast? ≠ some '{') (hcomment : comment.IsComment) :
    ∃ again, Node.parse known
        (String.ofList (Text.insertAt source.toList offset comment.source)) = .ok again ∧
      again = Node.movedAll (Position.spread source.toList offset comment.source) nodes ∧
      Node.sameAll again nodes = true ∧
      ∀ (r : Renderer) (c : Context), r.render again c =
        (r.render nodes c).moved (Position.spread source.toList offset comment.source) := by
  refine ⟨_, Node.parse_insertAt hparse houtside hbrace hcomment, rfl,
    Node.sameAll_moved _ nodes, fun r c => ?_⟩
  rw [Renderer.render, Renderer.render, Renderer.renderNodes_moved]

/-- A block with a text that has something in its middle, and a variable behind it. -/
def blockSource (between : String) : String :=
  "\x7b\x7b#if x\x7d\x7da" ++ between ++ "b\x7b\x7b/if\x7d\x7d\x7b\x7by\x7d\x7d"

def blockNodes (last : Position) : List Node :=
  [.conditional false ⟨"x", []⟩ [.text "ab" ⟨9, 1, 10⟩] none ⟨0, 1, 1⟩,
    .interpolation ⟨"y", []⟩ [] last]

/-- A long comment with a line end and a closing tag in it. -/
theorem comments_are_invisible_example :
    Node.parse (fun _ => false) (blockSource "") = .ok (blockNodes ⟨18, 1, 19⟩) ∧
    Node.parse (fun _ => false) (blockSource "\x7b\x7b!--\n\x7b\x7b/if\x7d\x7d--\x7d\x7d")
      = .ok (blockNodes ⟨35, 2, 20⟩) ∧
    Renderer.render ⟨.standard, .strict⟩ (blockNodes ⟨35, 2, 20⟩) ⟨[]⟩
      = .error (.error ⟨.missingVariable, ⟨"y", []⟩, ⟨35, 2, 20⟩⟩) := by
  have hparse : Node.parse (fun _ => false) (blockSource "") = .ok (blockNodes ⟨18, 1, 19⟩) := by
    rfl
  have hspans : (Span.scan (blockSource "").toList).1 =
      [.tag "#if x".toList, .text "ab".toList, .tag "/if".toList, .tag "y".toList] := by
    decide +kernel
  have hinside : 1 ≤ "ab".toList.length := by decide
  have houtside : Span.Outside (Span.scan (blockSource "").toList).1 10 := by
    rw [hspans]
    exact .behind (.tag "#if x".toList) (.within hinside _)
  have hopen : ¬['-', '-', '\x7d', '\x7d'] <:+: "\n\x7b\x7b/if\x7d\x7d".toList := by decide +kernel
  have hcomment : (Span.longComment "\n\x7b\x7b/if\x7d\x7d".toList).IsComment := hopen
  have hlonger : String.ofList (Text.insertAt (blockSource "").toList 10
      (Span.longComment "\n\x7b\x7b/if\x7d\x7d".toList).source)
        = blockSource "\x7b\x7b!--\n\x7b\x7b/if\x7d\x7d--\x7d\x7d" := by decide +kernel
  obtain ⟨again, hagain, hmoved, -, hrender⟩ :=
    comments_are_invisible hparse houtside (by decide +kernel) hcomment
  have hnodes : again = blockNodes ⟨35, 2, 20⟩ := by
    rw [hmoved]
    rfl
  rw [hlonger, hnodes] at hagain
  refine ⟨hparse, hagain, ?_⟩
  rw [← hnodes, hrender]
  rfl

end Scaffold
