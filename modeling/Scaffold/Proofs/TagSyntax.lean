import Scaffold.Proofs.PathSyntax
import Scaffold.Template.Parse

namespace Scaffold

/-!
# The grammar of tags

Every trimmed tag content either has one of the four forms of a tag or is
malformed in one of six ways. Reading a content agrees with both
relations, so that neither can hold where the other does.
-/

namespace Text

theorem cutAt?_append {c : Char} {before : List Char} (h : c ∉ before) (after : List Char) :
    cutAt? [c] (before ++ c :: after) = some (before, after) := by
  induction before with
  | nil => simp [cutAt?]
  | cons d ds ih =>
      obtain ⟨hd, hds⟩ := not_or.mp (fun hm => h (List.mem_cons.mpr hm))
      simp [cutAt?, hd, ih hds]

theorem cutAt?_of_not_mem {c : Char} {s : List Char} (h : c ∉ s) : cutAt? [c] s = none := by
  induction s with
  | nil => rfl
  | cons d ds ih =>
      obtain ⟨hd, hds⟩ := not_or.mp (fun hm => h (List.mem_cons.mpr hm))
      simp [cutAt?, hd, ih hds]

end Text

namespace Tag

/-! ## Keywords and their arguments -/

/-- The content of an opening tag falls into a keyword, up to the first space, and what follows
that space. -/
inductive Splits : List Char → List Char → List Char → Prop
  | alone {word : List Char} (h : ' ' ∉ word) : Splits word word []
  | spaced {word : List Char} (h : ' ' ∉ word) (arguments : List Char) :
      Splits (word ++ ' ' :: arguments) word arguments

theorem Splits.cutKeyword_eq {content word arguments : List Char}
    (h : Splits content word arguments) : cutKeyword content = (word, arguments) := by
  cases h with
  | alone h => rw [cutKeyword, Text.cutAt?_of_not_mem h]; rfl
  | spaced h => rw [cutKeyword, Text.cutAt?_append h]; rfl

theorem splits_cutKeyword (content : List Char) :
    Splits content (cutKeyword content).1 (cutKeyword content).2 := by
  by_cases h : ' ' ∈ content
  · obtain ⟨before, after, rfl, hbefore⟩ := List.eq_append_cons_of_mem h
    rw [(Splits.spaced hbefore after).cutKeyword_eq]
    exact .spaced hbefore after
  · rw [(Splits.alone h).cutKeyword_eq]
    exact .alone h

theorem keyword_ne_of_ofKeyword?_eq_none {word : List Char}
    (h : BlockKind.ofKeyword? word = none) (kind : BlockKind) : word ≠ kind.keyword.toList := by
  rintro rfl
  simp at h

theorem ofKeyword?_eq_none {word : List Char} (h : ∀ kind : BlockKind, word ≠ kind.keyword.toList) :
    BlockKind.ofKeyword? word = none := by
  rw [BlockKind.ofKeyword?, List.find?_eq_none]
  intro kind _
  simpa using (h kind).symm

theorem eq_keyword_of_ofKeyword? {word : List Char} {kind : BlockKind}
    (h : BlockKind.ofKeyword? word = some kind) : word = kind.keyword.toList := by
  rw [BlockKind.ofKeyword?] at h
  have hkind := List.find?_some h
  exact (beq_iff_eq.mp hkind).symm

/-! ## Well-formed and malformed tags -/

/-- Contents that are neither an else nor open or close a block. -/
structure IsInterpolation (content : List Char) : Prop where
  ne_else : content ≠ "else".toList
  ne_opening : content.head? ≠ some '#'
  ne_closing : content.head? ≠ some '/'

variable {known : String → Bool}

variable (known) in
/-- The form of a tag, with what it says. -/
inductive Form : List Char → Tag → Prop
  | orElse : Form "else".toList .orElse
  | opening {rest arguments : List Char} {kind : BlockKind} {path : Path}
      (hword : Splits (Text.trim rest) kind.keyword.toList arguments)
      (hpath : Text.fields arguments = [path.dotted.toList]) (hvalid : path.Valid) :
      Form ('#' :: rest) (.opening kind path)
  | closing (rest : List Char) : Form ('/' :: rest) (.closing (String.ofList (Text.trim rest)))
  | interpolation {content : List Char} {path : Path} {helpers : List String}
      (hcontent : IsInterpolation content)
      (hfields : Text.fields content = helpers.map String.toList ++ [path.dotted.toList])
      (hhelpers : ∀ name ∈ helpers, known name = true) (hvalid : path.Valid) :
      Form content (.interpolation path helpers)

variable (known) in
/-- What is wrong with a tag, whatever stands around it. -/
inductive Malformed : List Char → FlawKind → Flaw → Prop
  | unknownBlock {rest word arguments : List Char} (hword : Splits (Text.trim rest) word arguments)
      (hunknown : ∀ kind : BlockKind, word ≠ kind.keyword.toList) :
      Malformed ('#' :: rest) .unknownBlock (.unknownBlock (String.ofList word))
  | argumentCount {rest arguments : List Char} {kind : BlockKind}
      (hword : Splits (Text.trim rest) kind.keyword.toList arguments)
      (hcount : (Text.fields arguments).length ≠ 1) :
      Malformed ('#' :: rest) .invalidPath
        (.argumentCount kind.keyword (Text.fields arguments).length)
  | blockPath {rest arguments raw : List Char} {kind : BlockKind} {flaw : PathFlaw}
      (hword : Splits (Text.trim rest) kind.keyword.toList arguments)
      (hpath : Text.fields arguments = [raw]) (hflaw : Path.parse raw = .error flaw) :
      Malformed ('#' :: rest) .invalidPath (.badPath (String.ofList raw) flaw)
  | emptyTag {content : List Char} (hcontent : IsInterpolation content)
      (hfields : Text.fields content = []) : Malformed content .invalidPath .emptyTag
  | unknownHelper {content raw : List Char} {before after : List (List Char)} {name : String}
      (hcontent : IsInterpolation content)
      (hfields : Text.fields content = before ++ name.toList :: after ++ [raw])
      (hbefore : ∀ helper ∈ before, known (String.ofList helper) = true)
      (hname : known name = false) :
      Malformed content .unknownHelper (.unknownHelper name)
  | interpolatedPath {content raw : List Char} {helpers : List (List Char)} {flaw : PathFlaw}
      (hcontent : IsInterpolation content) (hfields : Text.fields content = helpers ++ [raw])
      (hhelpers : ∀ helper ∈ helpers, known (String.ofList helper) = true)
      (hflaw : Path.parse raw = .error flaw) :
      Malformed content .invalidPath (.badPath (String.ofList raw) flaw)

/-! ## Reading agrees with the forms -/

theorem readPath_dotted {path : Path} (h : path.Valid) :
    readPath path.dotted.toList = .ok path := by
  rw [readPath, h.parse_dotted]

theorem readPath_error {raw : List Char} {flaw : PathFlaw} (h : Path.parse raw = .error flaw) :
    readPath raw = .error (.badPath (String.ofList raw) flaw) := by
  rw [readPath, h]

theorem read_opening (rest : List Char) :
    read known ('#' :: rest) = readOpening (Text.trim rest) := by
  have hne : '#' :: rest ≠ "else".toList := by
    intro h
    exact absurd (List.head_eq_of_cons_eq h) (by decide)
  rw [read, if_neg hne]

theorem read_closing (rest : List Char) :
    read known ('/' :: rest) = .ok (.closing (String.ofList (Text.trim rest))) := by
  have hne : '/' :: rest ≠ "else".toList := by
    intro h
    exact absurd (List.head_eq_of_cons_eq h) (by decide)
  rw [read, if_neg hne]

theorem IsInterpolation.read_eq {content : List Char} (h : IsInterpolation content) :
    read known content = readInterpolation known content := by
  unfold read
  rw [if_neg h.ne_else]
  split
  · exact absurd rfl h.ne_opening
  · exact absurd rfl h.ne_closing
  · rfl

theorem readOpening_of_field {content arguments raw : List Char} {kind : BlockKind}
    (h : Splits content kind.keyword.toList arguments) (hfields : Text.fields arguments = [raw]) :
    readOpening content = (readPath raw).map (.opening kind) := by
  rw [readOpening, h.cutKeyword_eq]
  simp only [BlockKind.ofKeyword?_keyword, hfields]

theorem readOpening_of_count {content arguments : List Char} {kind : BlockKind}
    (h : Splits content kind.keyword.toList arguments)
    (hcount : (Text.fields arguments).length ≠ 1) :
    readOpening content =
      .error (.argumentCount kind.keyword (Text.fields arguments).length) := by
  rw [readOpening, h.cutKeyword_eq]
  simp only [BlockKind.ofKeyword?_keyword]
  split
  · next raw hraw => simp [hraw] at hcount
  · rfl

theorem readInterpolation_of_known {content raw : List Char} {before : List (List Char)}
    (h : Text.fields content = before ++ [raw])
    (hknown : (before.map String.ofList).find? (!known ·) = none) :
    readInterpolation known content =
      (readPath raw).map (.interpolation · (before.map String.ofList)) := by
  rw [readInterpolation, h]
  simp only [List.reverse_append, List.reverse_singleton, List.singleton_append,
    List.reverse_reverse, hknown]

theorem readInterpolation_of_unknown {content raw : List Char} {before : List (List Char)}
    {name : String} (h : Text.fields content = before ++ [raw])
    (hname : (before.map String.ofList).find? (!known ·) = some name) :
    readInterpolation known content = .error (.unknownHelper name) := by
  rw [readInterpolation, h]
  simp only [List.reverse_append, List.reverse_singleton, List.singleton_append,
    List.reverse_reverse, hname]

theorem find?_unknown_eq_none {helpers : List (List Char)}
    (h : ∀ helper ∈ helpers, known (String.ofList helper) = true) :
    (helpers.map String.ofList).find? (!known ·) = none := by
  rw [List.find?_eq_none]
  intro name hname
  obtain ⟨helper, hhelper, rfl⟩ := List.mem_map.mp hname
  simp [h helper hhelper]

theorem Form.read_eq {content : List Char} {tag : Tag} (h : Form known content tag) :
    read known content = .ok tag := by
  cases h with
  | orElse => rfl
  | opening hword hpath hvalid =>
      rw [read_opening, readOpening_of_field hword hpath, readPath_dotted hvalid]
      rfl
  | closing rest => exact read_closing rest
  | @interpolation _ path helpers hcontent hfields hhelpers hvalid =>
      have hknown : ∀ helper ∈ helpers.map String.toList,
          known (String.ofList helper) = true := by
        intro helper hhelper
        obtain ⟨name, hname, rfl⟩ := List.mem_map.mp hhelper
        simpa using hhelpers name hname
      rw [hcontent.read_eq, readInterpolation_of_known hfields (find?_unknown_eq_none hknown),
        readPath_dotted hvalid]
      simp [Except.map]

theorem Malformed.read_eq {content : List Char} {kind : FlawKind} {flaw : Flaw}
    (h : Malformed known content kind flaw) : read known content = .error flaw := by
  cases h with
  | unknownBlock hword hunknown =>
      rw [read_opening, readOpening, hword.cutKeyword_eq]
      simp only [ofKeyword?_eq_none hunknown]
  | argumentCount hword hcount =>
      rw [read_opening, readOpening_of_count hword hcount]
  | blockPath hword hpath hflaw =>
      rw [read_opening, readOpening_of_field hword hpath, readPath_error hflaw]
      rfl
  | emptyTag hcontent hfields =>
      rw [hcontent.read_eq, readInterpolation, hfields]
      rfl
  | @unknownHelper _ raw before after name hcontent hfields hbefore hname =>
      have hfind : ((before ++ name.toList :: after).map String.ofList).find? (!known ·) =
          some name := by
        rw [List.map_append, List.find?_append, find?_unknown_eq_none hbefore]
        simp [hname]
      rw [hcontent.read_eq, readInterpolation_of_unknown hfields hfind]
  | interpolatedPath hcontent hfields hhelpers hflaw =>
      rw [hcontent.read_eq, readInterpolation_of_known hfields (find?_unknown_eq_none hhelpers),
        readPath_error hflaw]
      rfl

theorem Malformed.kind_eq {content : List Char} {kind : FlawKind} {flaw : Flaw}
    (h : Malformed known content kind flaw) : kind = flaw.kind := by
  cases h <;> rfl

/-! ## Every content is of one sort or the other -/

theorem form_or_malformed_opening (rest : List Char) :
    (∃ tag, Form known ('#' :: rest) tag) ∨
      ∃ kind flaw, Malformed known ('#' :: rest) kind flaw := by
  have hsplits := splits_cutKeyword (Text.trim rest)
  cases hkind : BlockKind.ofKeyword? (cutKeyword (Text.trim rest)).1 with
  | none =>
      exact Or.inr ⟨_, _, .unknownBlock hsplits (keyword_ne_of_ofKeyword?_eq_none hkind)⟩
  | some kind =>
      rw [eq_keyword_of_ofKeyword? hkind] at hsplits
      by_cases hcount : (Text.fields (cutKeyword (Text.trim rest)).2).length = 1
      · obtain ⟨raw, hraw⟩ := List.length_eq_one_iff.mp hcount
        cases hpath : Path.parse raw with
        | error flaw => exact Or.inr ⟨_, _, .blockPath hsplits hraw hpath⟩
        | ok path =>
            obtain ⟨hvalid, hdotted⟩ := Path.parse_sound hpath
            rw [← hdotted] at hraw
            exact Or.inl ⟨_, .opening hsplits hraw hvalid⟩
      · exact Or.inr ⟨_, _, .argumentCount hsplits hcount⟩

theorem form_or_malformed_interpolation {content : List Char} (h : IsInterpolation content) :
    (∃ tag, Form known content tag) ∨ ∃ kind flaw, Malformed known content kind flaw := by
  rcases List.eq_nil_or_concat (Text.fields content) with hfields | ⟨before, raw, hfields⟩
  · exact Or.inr ⟨_, _, .emptyTag h hfields⟩
  · rw [List.concat_eq_append] at hfields
    cases hfind : (before.map String.ofList).find? (!known ·) with
    | some name =>
        obtain ⟨hname, front, back, hsplit, hfront⟩ := List.find?_eq_some_iff_append.mp hfind
        obtain ⟨front, back, rfl, rfl, hback⟩ := List.map_eq_append_iff.mp hsplit
        obtain ⟨word, back, rfl, rfl, rfl⟩ := List.map_eq_cons_iff.mp hback
        have hbefore : ∀ helper ∈ front, known (String.ofList helper) = true := by
          simpa using hfront
        have hfields' : Text.fields content =
            front ++ (String.ofList word).toList :: back ++ [raw] := by
          simpa using hfields
        exact Or.inr ⟨_, _, .unknownHelper h hfields' hbefore (by simpa using hname)⟩
    | none =>
        have hknown : ∀ helper ∈ before, known (String.ofList helper) = true := by
          simpa using hfind
        cases hpath : Path.parse raw with
        | error flaw => exact Or.inr ⟨_, _, .interpolatedPath h hfields hknown hpath⟩
        | ok path =>
            obtain ⟨hvalid, hdotted⟩ := Path.parse_sound hpath
            have hfields' : Text.fields content =
                (before.map String.ofList).map String.toList ++ [path.dotted.toList] := by
              simpa [hdotted] using hfields
            exact Or.inl ⟨_, .interpolation h hfields' (by simpa using hknown) hvalid⟩

variable (known) in
theorem form_or_malformed (content : List Char) :
    (∃ tag, Form known content tag) ∨ ∃ kind flaw, Malformed known content kind flaw := by
  by_cases helse : content = "else".toList
  · subst helse
    exact Or.inl ⟨_, .orElse⟩
  · by_cases hopening : content.head? = some '#'
    · obtain ⟨rest, rfl⟩ := List.head?_eq_some_iff.mp hopening
      exact form_or_malformed_opening rest
    · by_cases hclosing : content.head? = some '/'
      · obtain ⟨rest, rfl⟩ := List.head?_eq_some_iff.mp hclosing
        exact Or.inl ⟨_, .closing rest⟩
      · exact form_or_malformed_interpolation ⟨helse, hopening, hclosing⟩

theorem read_eq_ok_iff {content : List Char} {tag : Tag} :
    read known content = .ok tag ↔ Form known content tag := by
  refine ⟨fun h => ?_, Form.read_eq⟩
  rcases form_or_malformed known content with ⟨other, hother⟩ | ⟨kind, flaw, hflaw⟩
  · rw [hother.read_eq] at h
    cases h
    exact hother
  · simp [hflaw.read_eq] at h

theorem read_eq_error_iff {content : List Char} {flaw : Flaw} :
    read known content = .error flaw ↔ Malformed known content flaw.kind flaw := by
  refine ⟨fun h => ?_, Malformed.read_eq⟩
  rcases form_or_malformed known content with ⟨tag, htag⟩ | ⟨kind, other, hother⟩
  · simp [htag.read_eq] at h
  · rw [hother.read_eq] at h
    cases h
    exact hother.kind_eq ▸ hother

end Tag

end Scaffold
