import Scaffold.Template.Span

namespace Scaffold

/-!
# Spans and their sources

The spans of a source are those lists of spans that give the source back
and in which every span ends at the first mark that can end it. So a list
of spans that is `Canonical` is found again in its own source.
-/

namespace Text

/-- No occurrence of `mark` begins inside the text when `after` follows it. -/
def Clear (mark after : List Char) : List Char → Prop
  | [] => True
  | c :: s => ¬mark <+: c :: (s ++ after) ∧ Clear mark after s

theorem clear_of_not_mem {c : Char} {s : List Char} (h : c ∉ s) (mark after : List Char) :
    Clear (c :: mark) after s := by
  induction s with
  | nil => exact trivial
  | cons d s ih =>
      obtain ⟨hd, hs⟩ := not_or.mp (fun hm => h (List.mem_cons.mpr hm))
      refine ⟨?_, ih hs⟩
      intro hmark
      exact hd (List.cons_prefix_cons.mp hmark).1

theorem clear_end_iff {mark : List Char} (hmark : mark ≠ []) (s : List Char) :
    Clear mark [] s ↔ ¬mark <:+: s := by
  induction s with
  | nil => simpa [Clear] using hmark
  | cons c s ih => rw [Clear, ih, List.append_nil, List.infix_cons_iff, not_or]

/-- In front of a doubled character a text does not hold it doubled and does not end in it. -/
theorem clear_double_iff (d : Char) (s rest : List Char) :
    Clear [d, d] (d :: d :: rest) s ↔ ¬[d, d] <:+: s ∧ s.getLast? ≠ some d := by
  induction s with
  | nil => simp [Clear]
  | cons c s ih =>
      rw [Clear, ih, List.infix_cons_iff, not_or]
      cases s with
      | nil =>
          have hc : d ≠ c ↔ c ≠ d := ne_comm
          simpa [List.cons_prefix_cons] using hc
      | cons e s => simp [List.cons_prefix_cons, and_assoc]

/-- In front of a tag a text has no double brace and does not end in a brace. -/
theorem clear_open_iff (s rest : List Char) :
    Clear ['{', '{'] ('{' :: '{' :: rest) s ↔ ¬['{', '{'] <:+: s ∧ s.getLast? ≠ some '{' :=
  clear_double_iff '{' s rest

/-- The mark that ends a long comment does not overlap itself. -/
theorem clear_long_iff (s rest : List Char) :
    Clear ['-', '-', '}', '}'] ('-' :: '-' :: '}' :: '}' :: rest) s ↔
      ¬['-', '-', '}', '}'] <:+: s := by
  induction s with
  | nil => simp [Clear]
  | cons c s ih =>
      have hstart : ['-', '-', '}', '}'] <+: c :: (s ++ '-' :: '-' :: '}' :: '}' :: rest) ↔
          ['-', '-', '}', '}'] <+: c :: s := by
        rcases s with _ | ⟨d, _ | ⟨e, _ | ⟨f, s⟩⟩⟩ <;> simp [List.cons_prefix_cons]
      rw [Clear, ih, List.infix_cons_iff, not_or, hstart]

theorem clear_text_iff {rest : List Char} (h : rest = [] ∨ ['{', '{'] <+: rest) (s : List Char) :
    Clear ['{', '{'] rest s ↔ ¬['{', '{'] <:+: s ∧ (rest ≠ [] → s.getLast? ≠ some '{') := by
  rcases h with rfl | ⟨rest, rfl⟩
  · simpa using clear_end_iff (List.cons_ne_nil _ _) s
  · simpa using clear_open_iff s rest

end Text

namespace Span

/-! ## Reading one span -/

/-- The mark that ends what is being read. -/
def Reading.mark : Reading → List Char
  | .text _ => ['{', '{']
  | .tag _ => ['}', '}']
  | .longComment _ => ['-', '-', '}', '}']

/-- What is being read with one more character. -/
def Reading.push : Reading → Char → Reading
  | .text read, c => .text (c :: read)
  | .tag read, c => .tag (c :: read)
  | .longComment read, c => .longComment (c :: read)

/-- What is being read with more characters. -/
def Reading.extend : Reading → List Char → Reading
  | .text read, s => .text (s.reverse ++ read)
  | .tag read, s => .tag (s.reverse ++ read)
  | .longComment read, s => .longComment (s.reverse ++ read)

@[simp] theorem Reading.extend_nil (r : Reading) : r.extend [] = r := by
  cases r <;> rfl

theorem Reading.extend_push (r : Reading) (c : Char) (s : List Char) :
    (r.push c).extend s = r.extend (c :: s) := by
  cases r <;> simp [push, extend]

@[simp] theorem Reading.mark_push (r : Reading) (c : Char) : (r.push c).mark = r.mark := by
  cases r <;> rfl

theorem scanFrom_cons (r : Reading) {c : Char} {rest : List Char} (h : ¬r.mark <+: c :: rest) :
    scanFrom r (c :: rest) = scanFrom (r.push c) rest := by
  cases r with
  | text read =>
      rw [scanFrom]
      · rfl
      · rintro after rfl rfl
        exact h ⟨_, rfl⟩
      · rintro after rfl rfl
        exact h ⟨_, rfl⟩
  | tag read =>
      rw [scanFrom]
      · rfl
      · rintro after rfl rfl
        exact h ⟨_, rfl⟩
  | longComment read =>
      rw [scanFrom]
      · rfl
      · rintro after rfl rfl
        exact h ⟨_, rfl⟩

theorem scanFrom_append (r : Reading) {s rest : List Char} (h : Text.Clear r.mark rest s) :
    scanFrom r (s ++ rest) = scanFrom (r.extend s) rest := by
  induction s generalizing r with
  | nil => simp
  | cons c s ih =>
      obtain ⟨hc, hs⟩ := h
      have hrest : Text.Clear (r.push c).mark rest s := by rwa [Reading.mark_push]
      rw [List.cons_append, scanFrom_cons r hc, ih (r.push c) hrest, Reading.extend_push]

/-- Text ends where a tag or a comment begins and at the end of the source. -/
theorem scanFrom_flush (read : List Char) {rest : List Char}
    (h : rest = [] ∨ ['{', '{'] <+: rest) :
    scanFrom (.text read) rest =
      (flush read ++ (scanFrom (.text []) rest).1, (scanFrom (.text []) rest).2) := by
  rcases h with rfl | ⟨rest, rfl⟩
  · simp [scanFrom, flush]
  · by_cases hlong : ['!', '-', '-'] <+: rest
    · obtain ⟨rest, rfl⟩ := hlong
      simp [scanFrom, flush]
    · have htag (read : List Char) : scanFrom (.text read) ('{' :: '{' :: rest) =
          (flush read ++ (scanFrom (.tag []) rest).1, (scanFrom (.tag []) rest).2) := by
        rw [scanFrom]
        rintro after rfl
        exact hlong ⟨_, rfl⟩
      have hopen : ['{', '{'] ++ rest = '{' :: '{' :: rest := rfl
      rw [hopen, htag read, htag []]
      simp [flush]

theorem scanFrom_open {inner : List Char} (h : ¬['!', '-', '-'] <+: inner) (rest : List Char)
    (hclear : Text.Clear ['}', '}'] ('}' :: '}' :: rest) inner) :
    scanFrom (.text []) ((Span.tag inner).source ++ rest) =
      (.tag inner :: (scanFrom (.text []) rest).1, (scanFrom (.text []) rest).2) := by
  have hsource : (Span.tag inner).source ++ rest = '{' :: '{' :: (inner ++ '}' :: '}' :: rest) := by
    simp [source]
  have hshort : ∀ after, inner ++ '}' :: '}' :: rest = '!' :: '-' :: '-' :: after → False := by
    intro after heq
    have hprefix : ['!', '-', '-'] <+: inner ++ '}' :: '}' :: rest := ⟨after, heq.symm⟩
    rcases inner with _ | ⟨a, _ | ⟨b, _ | ⟨c, inner⟩⟩⟩ <;>
      simp_all [List.cons_prefix_cons]
  have hread : scanFrom (.tag []) (inner ++ '}' :: '}' :: rest) =
      scanFrom ((Reading.tag []).extend inner) ('}' :: '}' :: rest) := scanFrom_append _ hclear
  rw [hsource, scanFrom, hread, Reading.extend, scanFrom]
  · simp [flush]
  · exact hshort

theorem scanFrom_openLong {inner : List Char} (rest : List Char)
    (hclear : Text.Clear ['-', '-', '}', '}'] ('-' :: '-' :: '}' :: '}' :: rest) inner) :
    scanFrom (.text []) ((Span.longComment inner).source ++ rest) =
      (.longComment inner :: (scanFrom (.text []) rest).1, (scanFrom (.text []) rest).2) := by
  have hsource : (Span.longComment inner).source ++ rest =
      '{' :: '{' :: '!' :: '-' :: '-' :: (inner ++ '-' :: '-' :: '}' :: '}' :: rest) := by
    simp [source]
  have hread : scanFrom (.longComment []) (inner ++ '-' :: '-' :: '}' :: '}' :: rest) =
      scanFrom ((Reading.longComment []).extend inner) ('-' :: '-' :: '}' :: '}' :: rest) :=
    scanFrom_append _ hclear
  rw [hsource, scanFrom, hread, Reading.extend, scanFrom]
  simp [flush]

/-! ## Lists of spans -/

def IsText : Span → Prop
  | .text _ => True
  | _ => False

/-- Spans that are found again in their own source: each one ends at the first mark that can end
it, and text is not empty and ends only where something else begins. -/
inductive Canonical : List Span → Prop
  | nil : Canonical []
  | text {chars : List Char} {rest : List Span} (hne : chars ≠ [])
      (hclear : Text.Clear ['{', '{'] (rest.flatMap source) chars)
      (hnext : ∀ span ∈ rest.head?, ¬span.IsText) (hrest : Canonical rest) :
      Canonical (.text chars :: rest)
  | tag {inner : List Char} {rest : List Span} (hshort : ¬['!', '-', '-'] <+: inner)
      (hclear : Text.Clear ['}', '}'] ('}' :: '}' :: rest.flatMap source) inner)
      (hrest : Canonical rest) : Canonical (.tag inner :: rest)
  | longComment {inner : List Char} {rest : List Span}
      (hclear : Text.Clear ['-', '-', '}', '}']
        ('-' :: '-' :: '}' :: '}' :: rest.flatMap source) inner)
      (hrest : Canonical rest) : Canonical (.longComment inner :: rest)

theorem open_prefix_source {span : Span} (h : ¬span.IsText) : ['{', '{'] <+: span.source := by
  cases span with
  | text => exact absurd trivial h
  | tag inner => exact ⟨_, rfl⟩
  | longComment inner => exact ⟨_, rfl⟩

theorem source_eq_nil_or_open {spans : List Span} (h : ∀ span ∈ spans.head?, ¬span.IsText) :
    spans.flatMap source = [] ∨ ['{', '{'] <+: spans.flatMap source := by
  cases spans with
  | nil => exact Or.inl rfl
  | cons span rest =>
      have hspan : ['{', '{'] <+: span.source := open_prefix_source (h span rfl)
      exact Or.inr (hspan.trans (List.prefix_append _ _))

theorem source_ne_nil {spans : List Span} (h : ∀ span ∈ spans.head?, ¬span.IsText)
    (hne : spans ≠ []) : spans.flatMap source ≠ [] := by
  obtain ⟨span, rest, rfl⟩ := List.exists_cons_of_ne_nil hne
  obtain ⟨more, hmore⟩ := open_prefix_source (h span rfl)
  simp [← hmore]

theorem Canonical.nonempty_of_mem {spans : List Span} (h : Canonical spans) :
    ∀ span ∈ spans, span.source ≠ [] := by
  induction h with
  | nil => simp
  | text hne _ _ _ ih => exact List.forall_mem_cons.mpr ⟨hne, ih⟩
  | tag _ _ _ ih | longComment _ _ ih => exact List.forall_mem_cons.mpr ⟨by simp [source], ih⟩

theorem Canonical.scanFrom_eq {spans : List Span} (h : Canonical spans) :
    scanFrom (.text []) (spans.flatMap source) = (spans, none) := by
  induction h with
  | nil => simp [scanFrom, flush]
  | @text chars rest hne hclear hnext _ ih =>
      have hread : scanFrom (.text []) (chars ++ rest.flatMap source) =
          scanFrom ((Reading.text []).extend chars) (rest.flatMap source) :=
        scanFrom_append _ hclear
      rw [List.flatMap_cons, source, hread, Reading.extend,
        scanFrom_flush _ (source_eq_nil_or_open hnext), ih]
      simp [flush, hne]
  | tag hshort hclear _ ih => rw [List.flatMap_cons, scanFrom_open hshort _ hclear, ih]
  | longComment hclear _ ih => rw [List.flatMap_cons, scanFrom_openLong _ hclear, ih]

/-- What is being read, the characters still to be read and the spans that result: the first of
them completes what is being read. -/
def Reading.Completes : Reading → List Char → List Span → Prop
  | .text read, src, spans => ∃ chars rest, src = chars ++ rest.flatMap source ∧
      spans = flush (chars.reverse ++ read) ++ rest ∧
      Text.Clear ['{', '{'] (rest.flatMap source) chars ∧
      (∀ span ∈ rest.head?, ¬span.IsText) ∧ Canonical rest
  | .tag read, src, spans => ∃ inner rest, src = inner ++ '}' :: '}' :: rest.flatMap source ∧
      spans = .tag (read.reverse ++ inner) :: rest ∧
      Text.Clear ['}', '}'] ('}' :: '}' :: rest.flatMap source) inner ∧ Canonical rest
  | .longComment read, src, spans => ∃ inner rest,
      src = inner ++ '-' :: '-' :: '}' :: '}' :: rest.flatMap source ∧
      spans = .longComment (read.reverse ++ inner) :: rest ∧
      Text.Clear ['-', '-', '}', '}'] ('-' :: '-' :: '}' :: '}' :: rest.flatMap source) inner ∧
      Canonical rest

theorem Reading.Completes.push {r : Reading} {c : Char} {src : List Char} {spans : List Span}
    (h : (r.push c).Completes src spans) (hc : ¬r.mark <+: c :: src) :
    r.Completes (c :: src) spans := by
  cases r with
  | text read =>
      obtain ⟨chars, rest, rfl, rfl, hclear, hnext, hrest⟩ := h
      exact ⟨c :: chars, rest, rfl, by simp, ⟨hc, hclear⟩, hnext, hrest⟩
  | tag read =>
      obtain ⟨inner, rest, rfl, rfl, hclear, hrest⟩ := h
      exact ⟨c :: inner, rest, rfl, by simp, ⟨hc, hclear⟩, hrest⟩
  | longComment read =>
      obtain ⟨inner, rest, rfl, rfl, hclear, hrest⟩ := h
      exact ⟨c :: inner, rest, rfl, by simp, ⟨hc, hclear⟩, hrest⟩

/-- Text of which nothing has been read yet is a list of spans of its own. -/
theorem Reading.Completes.canonical {src : List Char} {spans : List Span}
    (h : (Reading.text []).Completes src spans) :
    Canonical spans ∧ spans.flatMap source = src := by
  obtain ⟨chars, rest, rfl, rfl, hclear, hnext, hrest⟩ := h
  by_cases hne : chars = []
  · subst hne
    exact ⟨hrest, rfl⟩
  · have hflush : flush (chars.reverse ++ []) = [.text chars] := by simp [flush, hne]
    rw [hflush]
    exact ⟨.text hne hclear hnext hrest, rfl⟩

theorem Reading.Completes.beginTag {src : List Char} {spans : List Span}
    (h : (Reading.tag []).Completes src spans) (hshort : ¬['!', '-', '-'] <+: src)
    (read : List Char) :
    (Reading.text read).Completes ('{' :: '{' :: src) (flush read ++ spans) := by
  obtain ⟨inner, rest, rfl, rfl, hclear, hrest⟩ := h
  have hinner : ¬['!', '-', '-'] <+: inner := fun hlong =>
    hshort (hlong.trans (List.prefix_append _ _))
  refine ⟨[], .tag inner :: rest, ?_, rfl, trivial, ?_, .tag hinner hclear hrest⟩
  · simp [source]
  · simp [IsText]

theorem Reading.Completes.beginLongComment {src : List Char} {spans : List Span}
    (h : (Reading.longComment []).Completes src spans) (read : List Char) :
    (Reading.text read).Completes ('{' :: '{' :: '!' :: '-' :: '-' :: src)
      (flush read ++ spans) := by
  obtain ⟨inner, rest, rfl, rfl, hclear, hrest⟩ := h
  refine ⟨[], .longComment inner :: rest, ?_, rfl, trivial, ?_, .longComment hclear hrest⟩
  · simp [source]
  · simp [IsText]

theorem completes_of_scanFrom {r : Reading} {src : List Char} {spans : List Span}
    (h : scanFrom r src = (spans, none)) : r.Completes src spans := by
  fun_induction scanFrom r src generalizing spans with
  | case1 read =>
      cases h
      exact ⟨[], [], rfl, by simp, trivial, by simp, .nil⟩
  | case2 read rest more open? hmore ih =>
      cases h
      exact (ih hmore).beginLongComment read
  | case3 read rest hshort more open? hmore ih =>
      cases h
      have hshort' : ¬['!', '-', '-'] <+: rest := fun ⟨after, hafter⟩ => hshort after hafter.symm
      exact (ih hmore).beginTag hshort' read
  | case4 read c rest hlong hopen ih =>
      refine (ih h).push (r := .text read) ?_
      rintro ⟨after, hafter⟩
      cases hafter
      exact hopen after rfl rfl
  | case5 | case8 => simp at h
  | case6 read rest more open? hmore ih =>
      cases h
      obtain ⟨hcanonical, rfl⟩ := (ih hmore).canonical
      exact ⟨[], more, rfl, by simp, trivial, hcanonical⟩
  | case7 read c rest hclose ih =>
      refine (ih h).push (r := .tag read) ?_
      rintro ⟨after, hafter⟩
      cases hafter
      exact hclose after rfl rfl
  | case9 read rest more open? hmore ih =>
      cases h
      obtain ⟨hcanonical, rfl⟩ := (ih hmore).canonical
      exact ⟨[], more, rfl, by simp, trivial, hcanonical⟩
  | case10 read c rest hclose ih =>
      refine (ih h).push (r := .longComment read) ?_
      rintro ⟨after, hafter⟩
      cases hafter
      exact hclose after rfl rfl

theorem scan_eq_iff {src : List Char} {spans : List Span} :
    scan src = (spans, none) ↔ Canonical spans ∧ spans.flatMap source = src := by
  constructor
  · intro h
    exact (completes_of_scanFrom h).canonical
  · rintro ⟨h, rfl⟩
    exact h.scanFrom_eq

end Span

end Scaffold
