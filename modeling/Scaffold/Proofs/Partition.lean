import Scaffold.Proofs.Positions

namespace Scaffold

/-!
# Cutting a source

There is one way to cut a source into spans, each of which ends at the
first mark that can end it, up to what is left open at the end. The tokens
are those of its text and tags. Their positions can be found by reading
every character once, though comments between them are not asked about.
-/

namespace Text

/-- A text has a first occurrence of a mark, or none. -/
theorem exists_first (mark s : List Char) :
    (∃ before after, s = before ++ (mark ++ after) ∧ Clear mark (mark ++ after) before) ∨
      ¬mark <:+: s := by
  by_cases hstart : mark <+: s
  · obtain ⟨after, rfl⟩ := hstart
    exact Or.inl ⟨[], after, rfl, trivial⟩
  · induction s with
    | nil =>
        right
        intro hinfix
        exact hstart (List.infix_nil.mp hinfix ▸ List.prefix_rfl)
    | cons c s ih =>
        by_cases hs : mark <+: s
        · obtain ⟨after, rfl⟩ := hs
          exact Or.inl ⟨[c], after, rfl, hstart, trivial⟩
        · rcases ih hs with ⟨before, after, rfl, hclear⟩ | hnone
          · exact Or.inl ⟨c :: before, after, rfl, hstart, hclear⟩
          · right
            rw [List.infix_cons_iff]
            exact not_or.mpr ⟨hstart, hnone⟩

end Text

/-! ## Spans -/

namespace Span

/-- A source, the spans that it is cut into, the rest behind them, and what the rest leaves
open. -/
inductive Cuts : List Char → List Span → List Char → Option Unclosed → Prop
  | complete : Cuts [] [] [] none
  | openTag {inner : List Char} (hshort : ¬['!', '-', '-'] <+: inner)
      (hopen : ¬['}', '}'] <:+: inner) :
      Cuts ('{' :: '{' :: inner) [] ('{' :: '{' :: inner) (some .tag)
  | openComment {inner : List Char} (hopen : ¬['-', '-', '}', '}'] <:+: inner) :
      Cuts ('{' :: '{' :: '!' :: '-' :: '-' :: inner) []
        ('{' :: '{' :: '!' :: '-' :: '-' :: inner) (some .longComment)
  | text {chars src rest : List Char} {spans : List Span} {open? : Option Unclosed}
      (hne : chars ≠ []) (hclear : Text.Clear ['{', '{'] src chars)
      (hend : src = [] ∨ ['{', '{'] <+: src) (hsrc : Cuts src spans rest open?) :
      Cuts (chars ++ src) (.text chars :: spans) rest open?
  | tag {inner src rest : List Char} {spans : List Span} {open? : Option Unclosed}
      (hshort : ¬['!', '-', '-'] <+: inner)
      (hclear : Text.Clear ['}', '}'] ('}' :: '}' :: src) inner)
      (hsrc : Cuts src spans rest open?) :
      Cuts ((Span.tag inner).source ++ src) (.tag inner :: spans) rest open?
  | longComment {inner src rest : List Char} {spans : List Span} {open? : Option Unclosed}
      (hclear : Text.Clear ['-', '-', '}', '}'] ('-' :: '-' :: '}' :: '}' :: src) inner)
      (hsrc : Cuts src spans rest open?) :
      Cuts ((Span.longComment inner).source ++ src) (.longComment inner :: spans) rest open?

variable {src rest : List Char} {spans : List Span} {open? : Option Unclosed}

theorem Cuts.source_eq (h : Cuts src spans rest open?) :
    src = spans.flatMap source ++ rest := by
  induction h with
  | complete | openTag | openComment => rfl
  | text _ _ _ _ ih => rw [List.flatMap_cons, List.append_assoc, ← ih]; rfl
  | tag _ _ _ ih | longComment _ _ ih => rw [List.flatMap_cons, List.append_assoc, ← ih]

theorem scanFrom_openTag {inner : List Char} (hshort : ¬['!', '-', '-'] <+: inner)
    (hopen : ¬['}', '}'] <:+: inner) :
    scanFrom (.text []) ('{' :: '{' :: inner) = ([], some .tag) := by
  have hclear : Text.Clear (Reading.tag []).mark [] inner :=
    (Text.clear_end_iff (List.cons_ne_nil _ _) inner).mpr hopen
  have hread : scanFrom (.tag []) inner = ([], some .tag) := by
    have happend := scanFrom_append (.tag []) hclear
    rw [List.append_nil] at happend
    rw [happend, Reading.extend, scanFrom]
  rw [scanFrom, hread]
  · rfl
  · rintro after rfl
    exact hshort ⟨_, rfl⟩

theorem scanFrom_openComment {inner : List Char} (hopen : ¬['-', '-', '}', '}'] <:+: inner) :
    scanFrom (.text []) ('{' :: '{' :: '!' :: '-' :: '-' :: inner) = ([], some .longComment) := by
  have hclear : Text.Clear (Reading.longComment []).mark [] inner :=
    (Text.clear_end_iff (List.cons_ne_nil _ _) inner).mpr hopen
  have hread : scanFrom (.longComment []) inner = ([], some .longComment) := by
    have happend := scanFrom_append (.longComment []) hclear
    rw [List.append_nil] at happend
    rw [happend, Reading.extend, scanFrom]
  rw [scanFrom, hread]
  rfl

/-- The scan finds every cut. -/
theorem Cuts.scan_eq (h : Cuts src spans rest open?) : scan src = (spans, open?) := by
  rw [scan]
  induction h with
  | complete => rfl
  | openTag hshort hopen => exact scanFrom_openTag hshort hopen
  | openComment hopen => exact scanFrom_openComment hopen
  | @text chars src _ _ _ hne hclear hend _ ih =>
      have hread : scanFrom (.text []) (chars ++ src) =
          scanFrom ((Reading.text []).extend chars) src := scanFrom_append _ hclear
      rw [hread, Reading.extend, scanFrom_flush _ hend, ih]
      simp [flush, hne]
  | tag hshort hclear _ ih => rw [scanFrom_open hshort _ hclear, ih]
  | longComment hclear _ ih => rw [scanFrom_openLong _ hclear, ih]

/-- Behind two braces there is a tag or a long comment, closed or not. -/
theorem exists_cuts_open {inner : List Char}
    (ih : ∀ src : List Char, src.length < inner.length + 2 →
      ∃ spans rest open?, Cuts src spans rest open?) :
    ∃ spans rest open?, Cuts ('{' :: '{' :: inner) spans rest open? := by
  by_cases hlong : ['!', '-', '-'] <+: inner
  · obtain ⟨inner, rfl⟩ := hlong
    rcases Text.exists_first ['-', '-', '}', '}'] inner with ⟨inner, src, rfl, hclear⟩ | hopen
    · obtain ⟨spans, rest, open?, hsrc⟩ := ih src (by simp; omega)
      refine ⟨.longComment inner :: spans, rest, open?, ?_⟩
      simpa [source] using Cuts.longComment hclear hsrc
    · exact ⟨_, _, _, .openComment hopen⟩
  · rcases Text.exists_first ['}', '}'] inner with ⟨inner, src, rfl, hclear⟩ | hopen
    · obtain ⟨spans, rest, open?, hsrc⟩ := ih src (by simp; omega)
      have hshort : ¬['!', '-', '-'] <+: inner := fun h =>
        hlong (h.trans (List.prefix_append _ _))
      refine ⟨.tag inner :: spans, rest, open?, ?_⟩
      simpa [source] using Cuts.tag hshort hclear hsrc
    · exact ⟨_, _, _, .openTag hlong hopen⟩

theorem exists_cuts (src : List Char) : ∃ spans rest open?, Cuts src spans rest open? := by
  induction hlength : src.length using Nat.strongRecOn generalizing src with
  | _ n ih =>
      subst hlength
      have hopen (inner : List Char) (hle : inner.length + 2 ≤ src.length) :
          ∃ spans rest open?, Cuts ('{' :: '{' :: inner) spans rest open? :=
        exists_cuts_open fun s hs => ih s.length (by omega) s rfl
      rcases Text.exists_first ['{', '{'] src with ⟨chars, inner, rfl, hclear⟩ | hnone
      · obtain ⟨spans, rest, open?, hinner⟩ := hopen inner (by simp)
        by_cases hne : chars = []
        · subst hne
          exact ⟨spans, rest, open?, hinner⟩
        · exact ⟨_, _, _, .text hne hclear (Or.inr ⟨_, rfl⟩) hinner⟩
      · by_cases hne : src = []
        · subst hne
          exact ⟨_, _, _, .complete⟩
        · have hclear : Text.Clear ['{', '{'] [] src :=
            (Text.clear_end_iff (List.cons_ne_nil _ _) src).mpr hnone
          have hcuts := Cuts.text hne hclear (Or.inl rfl) .complete
          rw [List.append_nil] at hcuts
          exact ⟨_, _, _, hcuts⟩

theorem cuts_iff (hcuts : Cuts src spans rest open?) {spans' : List Span} {rest' : List Char}
    {open?' : Option Unclosed} :
    Cuts src spans' rest' open?' ↔ spans' = spans ∧ rest' = rest ∧ open?' = open? := by
  constructor
  · intro h
    have hscan : (spans', open?') = (spans, open?) := h.scan_eq.symm.trans hcuts.scan_eq
    cases hscan
    exact ⟨rfl, List.append_cancel_left (h.source_eq.symm.trans hcuts.source_eq), rfl⟩
  · rintro ⟨rfl, rfl, rfl⟩
    exact hcuts

end Span

/-! ## Positions -/

/-- The position of an offset, counted from the start of the source. -/
def Position.ofOffset (source : List Char) (offset : Nat) : Position where
  offset := offset
  line := 1 + (source.take offset).count '\n'
  column := 1 + (Text.lastLine (source.take offset)).length

theorem Position.ofOffset_length (before rest : List Char) :
    ofOffset (before ++ rest) before.length = start.advance before := by
  rw [advance_start, ofOffset, List.take_left]

namespace Span

/-- The tokens of spans that begin at an offset of a source: text as it is and tags without the
blanks around them, where these do not begin with an exclamation mark. -/
def tokensFrom (source : List Char) : Nat → List Span → List (Token × Position)
  | _, [] => []
  | offset, .text chars :: spans =>
    (.text (String.ofList chars), .ofOffset source offset)
      :: tokensFrom source (offset + chars.length) spans
  | offset, .tag inner :: spans =>
    let later := tokensFrom source (offset + (Span.tag inner).source.length) spans
    if (Text.trim inner).head? = some '!' then later
    else (.tag (Text.trim inner), .ofOffset source offset) :: later
  | offset, .longComment inner :: spans =>
    tokensFrom source (offset + (Span.longComment inner).source.length) spans

theorem place_eq_tokensFrom (before rest : List Char) (spans : List Span) :
    Token.place (Position.start.advance before) spans =
      tokensFrom (before ++ (spans.flatMap source ++ rest)) before.length spans := by
  induction spans generalizing before with
  | nil => rfl
  | cons span spans ih =>
      have hassoc : before ++ ((span :: spans).flatMap source ++ rest) =
          before ++ span.source ++ (spans.flatMap source ++ rest) := by simp
      have hhere : Position.start.advance before =
          .ofOffset (before ++ span.source ++ (spans.flatMap source ++ rest)) before.length := by
        rw [List.append_assoc, Position.ofOffset_length]
      have hlater := ih (before ++ span.source)
      rw [Position.advance_append, List.length_append] at hlater
      rw [hassoc, Token.place, hlater]
      cases span with
      | text chars => exact congrArg (fun p => (_, p) :: _) hhere
      | tag inner =>
          rw [tokensFrom, ← hhere]
          by_cases hnote : (Text.trim inner).head? = some '!' <;> simp [Token.ofSpan?, hnote]
      | longComment inner => rfl

end Span

/-! ## Finding positions in one pass -/

namespace Text

theorem lastLine_append (s t : List Char) :
    lastLine (s ++ t) = if '\n' ∈ t then lastLine t else lastLine s ++ t := by
  rw [lastLine, lastLine, lastLine, List.reverse_append]
  split
  · next hbreak =>
      have hshort : (t.reverse.takeWhile (· != '\n')).length ≠ t.reverse.length := by
        intro hall
        have heq : t.reverse.takeWhile (· != '\n') = t.reverse :=
          (List.takeWhile_prefix _).eq_of_length hall
        have hkept : t.reverse.all (· != '\n') = true := heq ▸ List.all_takeWhile
        exact bne_iff_ne.mp (List.all_eq_true.mp hkept _ (List.mem_reverse.mpr hbreak)) rfl
      rw [List.takeWhile_append, if_neg hshort]
  · next hbreak =>
      have hall : ∀ c ∈ t.reverse, (c != '\n') = true := by
        intro c hc
        apply bne_iff_ne.mpr
        rintro rfl
        exact hbreak (List.mem_reverse.mp hc)
      rw [List.takeWhile_append_of_pos hall, List.reverse_append, List.reverse_reverse]

theorem length_lastLine_le (s : List Char) : (lastLine s).length ≤ s.length := by
  have hle : (s.reverse.takeWhile (· != '\n')).length ≤ s.reverse.length :=
    (List.takeWhile_prefix _).length_le
  rw [lastLine, List.length_reverse]
  rwa [List.length_reverse] at hle

end Text

/-- What is known of a source from the last offset that was asked about: the line there, and where
this line starts. -/
structure Locator where
  scanned : Nat
  line : Nat
  lineStart : Nat

namespace Locator

def start : Locator := ⟨0, 1, 0⟩

/-- The locator at a later offset. Only the characters passed on the way are looked at. -/
def moveTo (l : Locator) (source : List Char) (offset : Nat) : Locator :=
  let passed := (source.take offset).drop l.scanned
  if '\n' ∈ passed then
    ⟨offset, l.line + passed.count '\n', offset - (Text.lastLine passed).length⟩
  else ⟨offset, l.line, l.lineStart⟩

def position (l : Locator) : Position where
  offset := l.scanned
  line := l.line
  column := l.scanned - l.lineStart + 1

/-- The locator is at its offset of a source. -/
structure IsAt (l : Locator) (source : List Char) : Prop where
  inside : l.scanned ≤ source.length
  line : l.line = 1 + (source.take l.scanned).count '\n'
  lineStart : l.lineStart + (Text.lastLine (source.take l.scanned)).length = l.scanned

/-- The tokens of spans that begin at an offset, and the locator behind the last of them; it is
not moved to comments. -/
def tokensFrom (source : List Char) : Locator → Nat → List Span → List (Token × Position) × Locator
  | l, _, [] => ([], l)
  | l, offset, span :: spans =>
    match Token.ofSpan? span with
    | some token =>
      let here := l.moveTo source offset
      let (later, last) := tokensFrom source here (offset + span.source.length) spans
      ((token, here.position) :: later, last)
    | none => tokensFrom source l (offset + span.source.length) spans

/-- The tokens of a source, all positions found by one locator. -/
def tokenize (source : String) : TokenStream :=
  let (spans, unclosed) := Span.scan source.toList
  let (tokens, last) := tokensFrom source.toList start 0 spans
  let behind := last.moveTo source.toList (spans.flatMap Span.source).length
  { tokens := tokens
    unclosed := unclosed.map fun what => (what, behind.position) }

theorem isAt_start (source : List Char) : start.IsAt source :=
  ⟨Nat.zero_le _, by simp [start], by simp [start, Text.lastLine]⟩

theorem IsAt.position_eq {l : Locator} {source : List Char} (h : l.IsAt source) :
    l.position = .ofOffset source l.scanned := by
  have hcolumn := h.lineStart
  rw [position, Position.ofOffset, ← h.line]
  congr 1
  omega

theorem IsAt.moveTo {l : Locator} {source : List Char} (h : l.IsAt source) {offset : Nat}
    (hle : l.scanned ≤ offset) (hinside : offset ≤ source.length) :
    (l.moveTo source offset).IsAt source ∧ (l.moveTo source offset).scanned = offset := by
  have hsplit : source.take offset =
      source.take l.scanned ++ (source.take offset).drop l.scanned := by
    conv_lhs => rw [← List.take_append_drop l.scanned (source.take offset)]
    rw [List.take_take, Nat.min_eq_left hle]
  have hlength : ((source.take offset).drop l.scanned).length = offset - l.scanned := by
    rw [List.length_drop, List.length_take, Nat.min_eq_left hinside]
  have hline := h.line
  have hstart := h.lineStart
  rw [Locator.moveTo]
  generalize (source.take offset).drop l.scanned = passed at hsplit hlength ⊢
  by_cases hbreak : '\n' ∈ passed
  · have hshort := Text.length_lastLine_le passed
    rw [if_pos hbreak]
    refine ⟨⟨hinside, ?_, ?_⟩, rfl⟩
    · rw [hsplit, List.count_append, hline, Nat.add_assoc]
    · simp only [hsplit, Text.lastLine_append, if_pos hbreak]
      omega
  · rw [if_neg hbreak]
    refine ⟨⟨hinside, ?_, ?_⟩, rfl⟩
    · rw [hsplit, List.count_append, List.count_eq_zero_of_not_mem hbreak, hline, Nat.add_zero]
    · simp only [hsplit, Text.lastLine_append, if_neg hbreak, List.length_append]
      omega

/-- The locator is moved to every token, and from there to the next one. -/
theorem IsAt.tokensFrom {l : Locator} {source : List Char} (h : l.IsAt source)
    {before rest : List Char} {spans : List Span}
    (hsource : source = before ++ (spans.flatMap Span.source ++ rest))
    (hle : l.scanned ≤ before.length) :
    (tokensFrom source l before.length spans).1 =
        Token.place (Position.start.advance before) spans ∧
      (tokensFrom source l before.length spans).2.IsAt source ∧
      (tokensFrom source l before.length spans).2.scanned ≤
        before.length + (spans.flatMap Span.source).length := by
  induction spans generalizing l before with
  | nil => exact ⟨rfl, h, hle⟩
  | cons span spans ih =>
      have hassoc : source = before ++ span.source ++ (spans.flatMap Span.source ++ rest) := by
        simp [hsource]
      have hlength : before.length + span.source.length = (before ++ span.source).length := by simp
      have htotal : before.length + ((span :: spans).flatMap Span.source).length =
          (before ++ span.source).length + (spans.flatMap Span.source).length := by
        simp [Nat.add_assoc]
      rw [Locator.tokensFrom, Token.place, ← Position.advance_append, htotal, hlength]
      cases htoken : Token.ofSpan? span with
      | none => exact ih h hassoc (Nat.le_trans hle (by simp))
      | some token =>
          have hinside : before.length ≤ source.length := by simp [hsource]
          obtain ⟨hhere, hscanned⟩ := h.moveTo hle hinside
          obtain ⟨hlater, hlast⟩ := ih hhere hassoc (by simp [hscanned])
          refine ⟨?_, hlast⟩
          have hposition : (l.moveTo source before.length).position =
              Position.start.advance before := by
            rw [hhere.position_eq, hscanned, hsource, Position.ofOffset_length]
          simp only [hlater, hposition]

theorem tokenize_eq (source : String) : tokenize source = Token.tokenize source := by
  obtain ⟨spans, rest, open?, hcuts⟩ := Span.exists_cuts source.toList
  have hsource : source.toList = [] ++ (spans.flatMap Span.source ++ rest) := hcuts.source_eq
  obtain ⟨htokens, hlast, hscanned⟩ :=
    (isAt_start source.toList).tokensFrom hsource (Nat.zero_le _)
  have hinside : (spans.flatMap Span.source).length ≤ source.toList.length := by simp [hsource]
  obtain ⟨hbehind, hoffset⟩ := hlast.moveTo (by simpa using hscanned) hinside
  have hposition := hbehind.position_eq
  rw [hoffset] at hposition
  conv at hposition => rhs; rw [hsource, List.nil_append, Position.ofOffset_length]
  simp only [tokenize, Token.tokenize, hcuts.scan_eq]
  exact congr (congrArg TokenStream.mk htokens)
    (congrArg (fun p => open?.map fun what => (what, p)) hposition)

end Locator

/-- A source is cut into spans in one way. The tokens are those of its text and tags, what is left
open is left open behind the last span, and all positions are counted from the start of the source,
also where one locator finds them. -/
theorem tokens_of_cut_source (source : String) :
    ∃ spans rest open?,
      (∀ spans' rest' open?', Span.Cuts source.toList spans' rest' open?' ↔
        spans' = spans ∧ rest' = rest ∧ open?' = open?) ∧
      source.toList = spans.flatMap Span.source ++ rest ∧
      (Token.tokenize source).tokens = Span.tokensFrom source.toList 0 spans ∧
      (Token.tokenize source).unclosed = open?.map (fun what =>
        (what, Position.ofOffset source.toList (spans.flatMap Span.source).length)) ∧
      Locator.tokenize source = Token.tokenize source := by
  obtain ⟨spans, rest, open?, hcuts⟩ := Span.exists_cuts source.toList
  have hsource : source.toList = spans.flatMap Span.source ++ rest := hcuts.source_eq
  have hstream : Token.tokenize source = ⟨Token.place .start spans, open?.map fun what =>
      (what, Position.start.advance (spans.flatMap Span.source))⟩ := by
    rw [Token.tokenize, hcuts.scan_eq]
  refine ⟨spans, rest, open?, fun _ _ _ => Span.cuts_iff hcuts, hsource, ?_, ?_,
    Locator.tokenize_eq source⟩
  · rw [hstream, hsource]
    exact Span.place_eq_tokensFrom [] rest spans
  · rw [hstream, hsource, Position.ofOffset_length]

end Scaffold
