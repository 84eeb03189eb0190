import Mathlib.Logic.Relation
import Scaffold.Proofs.Blanks
import Scaffold.Proofs.TagSyntax

namespace Scaffold

/-!
# The words of tags

What a tag says depends on the mark in front of it and on the words behind
the mark, which stay when runs of blanks are replaced by others. There is
one exception: a tag that opens a block is only read if a space, and not
another blank, stands behind its keyword.
-/

namespace Tag

open Text

/-! ## Replacing blanks -/

/-- A run of blanks in a tag is replaced by another one. Neither is empty where they divide two
names; at both ends of the tag and behind the mark of a block there need not be any blanks. -/
inductive Respaces : List Char → List Char → Prop
  | run {before gap gap' after : List Char} (hgap : Blank gap) (hgap' : Blank gap')
      (hplace : gap ≠ [] ∧ gap' ≠ [] ∨ Blank before ∨ Blank after ∨
        ∃ front mark, before = front ++ [mark] ∧ Blank front ∧ (mark = '#' ∨ mark = '/')) :
      Respaces (before ++ (gap ++ after)) (before ++ (gap' ++ after))

/-- The mark of a tag that opens or closes a block, if there is one, and the words behind it. -/
def parts (content : List Char) : Option Char × List (List Char) :=
  match content with
  | '#' :: rest => (some '#', fields rest)
  | '/' :: rest => (some '/', fields rest)
  | _ => (none, fields content)

variable {inner inner' content : List Char} {words : List (List Char)}

theorem parts_of_bare (hopen : content.head? ≠ some '#') (hclose : content.head? ≠ some '/') :
    parts content = (none, fields content) := by
  unfold parts
  split
  · exact absurd rfl hopen
  · exact absurd rfl hclose
  · rfl

theorem parts_eq_opening (h : parts content = (some '#', words)) :
    ∃ rest, content = '#' :: rest ∧ fields rest = words := by
  unfold parts at h
  split at h
  · next rest => exact ⟨rest, rfl, congrArg Prod.snd h⟩
  · cases h
  · cases h

theorem parts_eq_closing (h : parts content = (some '/', words)) :
    ∃ rest, content = '/' :: rest ∧ fields rest = words := by
  unfold parts at h
  split at h
  · cases h
  · next rest => exact ⟨rest, rfl, congrArg Prod.snd h⟩
  · cases h

theorem parts_eq_bare (h : parts content = (none, words)) :
    content.head? ≠ some '#' ∧ content.head? ≠ some '/' ∧ fields content = words := by
  unfold parts at h
  split at h
  · cases h
  · cases h
  · next hopen hclose =>
      refine ⟨fun hhead => ?_, fun hhead => ?_, congrArg Prod.snd h⟩
      · obtain ⟨rest, hrest⟩ := List.head?_eq_some_iff.mp hhead
        exact hopen rest hrest
      · obtain ⟨rest, hrest⟩ := List.head?_eq_some_iff.mp hhead
        exact hclose rest hrest

/-- Contents that begin with the same character and go on with the same words. -/
theorem parts_cons {c : Char} {rest rest' : List Char} (h : fields rest = fields rest')
    (hwhole : fields (c :: rest) = fields (c :: rest')) :
    parts (c :: rest) = parts (c :: rest') := by
  by_cases hopen : c = '#'
  · subst hopen
    exact congrArg (some '#', ·) h
  · by_cases hclose : c = '/'
    · subst hclose
      exact congrArg (some '/', ·) h
    · have hbare (s : List Char) : parts (c :: s) = (none, fields (c :: s)) :=
        parts_of_bare (by simpa using hopen) (by simpa using hclose)
      rw [hbare, hbare, hwhole]

theorem Respaces.parts_eq (h : Respaces inner inner') :
    parts (trim inner) = parts (trim inner') := by
  cases h with
  | @run before gap gap' after hgap hgap' hplace =>
      rcases hplace with ⟨hne, hne'⟩ | hbefore | hafter | ⟨front, mark, rfl, hfront, hmark⟩
      · rcases blank_or_exists before with hbefore | ⟨front, c, more, hfront, hc, rfl⟩
        · rw [trim_blank_append hbefore, trim_blank_append hgap, trim_blank_append hbefore,
            trim_blank_append hgap']
        · have hcut (gap : List Char) : trim (front ++ c :: more ++ (gap ++ after)) =
              c :: trimEnd (more ++ (gap ++ after)) := by
            rw [List.append_assoc, List.cons_append, trim_cons hfront hc]
          have hrest (gap : List Char) (hgap : Blank gap) (hne : gap ≠ []) :
              fields (trimEnd (more ++ (gap ++ after))) = fields more ++ fields after := by
            rw [fields_trimEnd, fields_append_blank _ hgap hne]
          have hwhole (gap : List Char) (hgap : Blank gap) (hne : gap ≠ []) :
              fields (c :: trimEnd (more ++ (gap ++ after))) =
                fields (front ++ c :: more) ++ fields after := by
            rw [← hcut, fields_trim, fields_append_blank _ hgap hne]
          rw [hcut, hcut]
          exact parts_cons ((hrest gap hgap hne).trans (hrest gap' hgap' hne').symm)
            ((hwhole gap hgap hne).trans (hwhole gap' hgap' hne').symm)
      · rw [trim_blank_append hbefore, trim_blank_append hgap, trim_blank_append hbefore,
          trim_blank_append hgap']
      · rw [trim_append_blank _ (hgap.append hafter), trim_append_blank _ (hgap'.append hafter)]
      · have hsolid : isBlank mark = false := by rcases hmark with rfl | rfl <;> decide
        have hcut (gap : List Char) (hgap : Blank gap) :
            trim (front ++ [mark] ++ (gap ++ after)) = mark :: trimEnd (gap ++ after) ∧
              fields (trimEnd (gap ++ after)) = fields after := by
          rw [List.append_assoc, List.singleton_append, trim_cons hfront hsolid, fields_trimEnd,
            fields_blank_append hgap]
          exact ⟨rfl, rfl⟩
        obtain ⟨htrim, hfields⟩ := hcut gap hgap
        obtain ⟨htrim', hfields'⟩ := hcut gap' hgap'
        rw [htrim, htrim']
        rcases hmark with rfl | rfl
        · exact congrArg (some '#', ·) (hfields.trans hfields'.symm)
        · exact congrArg (some '/', ·) (hfields.trans hfields'.symm)

/-- What replacing runs of blanks in a tag keeps. -/
structure Kept (inner inner' : List Char) : Prop where
  parts : parts (trim inner) = parts (trim inner')
  head? : (trim inner').head? = (trim inner).head?
  closes : ['}', '}'] <:+: inner' → ['}', '}'] <:+: inner

theorem Respaces.head?_eq (h : Respaces inner inner') :
    (trim inner').head? = (trim inner).head? := by
  cases h with
  | @run before gap gap' after hgap hgap' =>
      have hnone (gap : List Char) (hgap : Blank gap) : gap.find? (!isBlank ·) = none := by
        simpa [Blank] using hgap
      simp only [head?_trim, List.find?_append, hnone gap hgap, hnone gap' hgap']

theorem Respaces.closes (h : Respaces inner inner') (hinner : ['}', '}'] <:+: inner') :
    ['}', '}'] <:+: inner := by
  have hbrace : isBlank '}' = false := by decide
  cases h with
  | @run before gap gap' after hgap hgap' hplace =>
      have hparts : ['}', '}'] <:+: before ∨ ['}', '}'] <:+: after := by
        rcases hplace with ⟨-, hne'⟩ | hbefore | hafter | ⟨front, mark, rfl, hfront, hmark⟩
        · exact infix_of_gap hbrace hgap' hne' hinner
        · rw [← List.append_assoc] at hinner
          exact .inr (infix_of_not_mem ((hbefore.append hgap').not_mem hbrace) hinner)
        · by_cases hnil : gap' ++ after = []
          · rw [hnil, List.append_nil] at hinner
            exact .inl hinner
          · rw [← List.append_nil (gap' ++ after)] at hinner
            exact (infix_of_gap hbrace (hgap'.append hafter) hnil hinner).imp_right fun h =>
              h.trans (List.nil_infix)
        · have hnot : '}' ∉ front ++ [mark] ++ gap' := by
            have hne : '}' ≠ mark := by rcases hmark with rfl | rfl <;> decide
            simp [hfront.not_mem hbrace, hgap'.not_mem hbrace, hne]
          rw [← List.append_assoc] at hinner
          exact .inr (infix_of_not_mem hnot hinner)
      rcases hparts with h | h
      · exact h.trans (List.prefix_append _ _).isInfix
      · rw [← List.append_assoc]
        exact h.trans (List.suffix_append _ _).isInfix

theorem kept_of_respaces (h : Relation.ReflTransGen Respaces inner inner') :
    Kept inner inner' := by
  induction h with
  | refl => exact ⟨rfl, rfl, id⟩
  | tail _ hlast ih =>
      refine ⟨ih.parts.trans hlast.parts_eq, ?_, ih.closes ∘ hlast.closes⟩
      exact hlast.head?_eq.trans ih.head?

/-! ## Reading tags of the same words -/

variable {known : String → Bool} {tag : Tag} {mark : Option Char}

variable (known) in
/-- What a tag of a template says with its mark and its words. -/
inductive Says : Option Char → List (List Char) → Tag → Prop
  | orElse : Says none ["else".toList] .orElse
  | opening {kind : BlockKind} {path : Path} (hvalid : path.Valid) :
      Says (some '#') [kind.keyword.toList, path.dotted.toList] (.opening kind path)
  | closing (kind : BlockKind) : Says (some '/') [kind.keyword.toList] (.closing kind.keyword)
  | interpolation {path : Path} {helpers : List String}
      (hhelpers : ∀ name ∈ helpers, known name = true) (hvalid : path.Valid)
      (hne : helpers.map String.toList ++ [path.dotted.toList] ≠ ["else".toList]) :
      Says none (helpers.map String.toList ++ [path.dotted.toList]) (.interpolation path helpers)

/-- In a tag that opens a block the keyword ends at a space, and not at another blank. -/
def SpaceEndsKeyword (content : List Char) : Prop :=
  content.head? = some '#' → (trim content.tail).find? isBlank = some ' '

instance (content : List Char) : Decidable (SpaceEndsKeyword content) :=
  inferInstanceAs (Decidable (_ → _))

theorem isWord_keyword (kind : BlockKind) : Text.IsWord kind.keyword.toList := by
  rcases kind with (_ | _) | _ <;> exact isWord_of_all (by decide) (by decide)

theorem fields_of_splits {rest arguments : List Char} {kind : BlockKind} {raw : List Char}
    (h : Splits (trim rest) kind.keyword.toList arguments) (hraw : fields arguments = [raw]) :
    fields rest = [kind.keyword.toList, raw] := by
  rw [← fields_trim]
  generalize trim rest = s at h
  cases h with
  | alone => cases hraw
  | spaced _ arguments =>
      have hword := isWord_keyword kind
      rw [fields_word_blank hword.ne_nil hword.not_blank (by decide), hraw]

/-- Of two words in a text the first one ends at the first blank. -/
theorem exists_first_blank {rest word raw : List Char} (h : fields rest = [word, raw]) :
    ∃ b arguments, isBlank b = true ∧ trim rest = word ++ b :: arguments ∧
      (∀ c ∈ word, isBlank c = false) ∧ fields arguments = [raw] := by
  rw [← fields_trim] at h
  have htrimmed := trimmed_trim rest
  generalize trim rest = s at h htrimmed
  cases hfind : s.find? isBlank with
  | none =>
      have hsolid : ∀ c ∈ s, isBlank c = false := by simpa using hfind
      by_cases hne : s = []
      · rw [hne, fields_nil] at h
        cases h
      · rw [fields_word hne hsolid] at h
        cases h
  | some b =>
      obtain ⟨hb, front, back, rfl, hfront⟩ := List.find?_eq_some_iff_append.mp hfind
      have hsolid : ∀ c ∈ front, isBlank c = false := by simpa using hfront
      have hne : front ≠ [] := by
        rintro rfl
        have hhead := htrimmed.1 b rfl
        rw [hb] at hhead
        cases hhead
      rw [fields_word_blank hne hsolid hb] at h
      obtain ⟨rfl, hback⟩ := List.cons.inj h
      exact ⟨b, back, hb, rfl, hsolid, hback⟩

theorem form_of_space {rest : List Char} {kind : BlockKind} {path : Path} (hvalid : path.Valid)
    (h : fields rest = [kind.keyword.toList, path.dotted.toList])
    (hspace : (trim rest).find? isBlank = some ' ') :
    Form known ('#' :: rest) (.opening kind path) := by
  obtain ⟨b, arguments, hb, htrim, hword, hraw⟩ := exists_first_blank h
  have hnone : kind.keyword.toList.find? isBlank = none := by simpa using hword
  rw [htrim, List.find?_append, hnone, Option.none_or, List.find?_cons_of_pos hb] at hspace
  cases hspace
  refine .opening ?_ hraw hvalid
  rw [htrim]
  exact .spaced (fun hmem => absurd (hword _ hmem) (by decide)) arguments

/-- Where another blank ends the keyword, it is not found. -/
theorem malformed_of_blank {rest raw : List Char} {kind : BlockKind}
    (h : fields rest = [kind.keyword.toList, raw])
    (hspace : (trim rest).find? isBlank ≠ some ' ') :
    ∃ flaw, Malformed known ('#' :: rest) .unknownBlock flaw := by
  obtain ⟨b, arguments, hb, htrim, -, -⟩ := exists_first_blank h
  refine ⟨_, .unknownBlock (splits_cutKeyword (trim rest)) fun other hother => ?_⟩
  have hsplits := splits_cutKeyword (trim rest)
  have hsolid := (isWord_keyword other).not_blank
  rw [hother] at hsplits
  generalize (cutKeyword (trim rest)).2 = after at hsplits
  generalize hs : trim rest = s at hsplits htrim hspace
  cases hsplits with
  | alone =>
      have hblank := hsolid b (htrim ▸ List.mem_append_right _ List.mem_cons_self)
      rw [hb] at hblank
      cases hblank
  | spaced _ after =>
      have hnone : other.keyword.toList.find? isBlank = none := by simpa using hsolid
      apply hspace
      rw [List.find?_append, hnone, Option.none_or, List.find?_cons_of_pos (by decide)]

theorem Form.says (h : Form known content tag) (htrimmed : Trimmed content)
    (hclosing : ∀ name, tag = .closing name → ∃ kind : BlockKind, name = kind.keyword) :
    Says known (parts content).1 (parts content).2 tag := by
  cases h with
  | orElse => exact .orElse
  | opening hword hpath hvalid =>
      change Says known (some '#') (fields _) _
      rw [fields_of_splits hword hpath]
      exact .opening hvalid
  | closing rest =>
      obtain ⟨kind, hkind⟩ := hclosing _ rfl
      have hword := isWord_keyword kind
      have hrest : fields rest = [kind.keyword.toList] := by
        rw [← fields_trim, ← String.toList_ofList (l := trim rest), hkind,
          fields_word hword.ne_nil hword.not_blank]
      change Says known (some '/') (fields rest) _
      rw [hrest, hkind]
      exact .closing kind
  | interpolation hcontent hfields hhelpers hvalid =>
      rw [parts_of_bare hcontent.ne_opening hcontent.ne_closing, hfields]
      refine .interpolation hhelpers hvalid fun helse => hcontent.ne_else ?_
      exact htrimmed.eq_of_fields (hfields.trans helse)

/-- What a tag says it says with every content, if a space ends the keyword. -/
theorem Says.form (h : Says known (parts content).1 (parts content).2 tag)
    (htrimmed : Trimmed content) (hspace : SpaceEndsKeyword content) : Form known content tag := by
  generalize hparts : parts content = both at h
  obtain ⟨mark, words⟩ := both
  cases h with
  | orElse =>
      obtain ⟨-, -, hfields⟩ := parts_eq_bare hparts
      obtain rfl := htrimmed.eq_of_fields hfields
      exact .orElse
  | opening hvalid =>
      obtain ⟨rest, rfl, hfields⟩ := parts_eq_opening hparts
      exact form_of_space hvalid hfields (hspace rfl)
  | closing kind =>
      obtain ⟨rest, rfl, hfields⟩ := parts_eq_closing hparts
      have hname : trim rest = kind.keyword.toList :=
        (trimmed_trim rest).eq_of_fields ((fields_trim rest).trans hfields)
      rw [← String.ofList_toList (s := kind.keyword), ← hname]
      exact .closing rest
  | interpolation hhelpers hvalid hne =>
      obtain ⟨hopen, hclose, hfields⟩ := parts_eq_bare hparts
      refine .interpolation ⟨?_, hopen, hclose⟩ hfields hhelpers hvalid
      rintro rfl
      exact hne hfields.symm

/-- Where another blank ends the keyword, the tag is refused. -/
theorem Says.malformed (h : Says known (parts content).1 (parts content).2 tag)
    (hspace : ¬SpaceEndsKeyword content) : ∃ flaw, Malformed known content .unknownBlock flaw := by
  rw [SpaceEndsKeyword, Classical.not_imp] at hspace
  obtain ⟨hhead, hblank⟩ := hspace
  obtain ⟨rest, rfl⟩ := List.head?_eq_some_iff.mp hhead
  generalize hparts : parts ('#' :: rest) = both at h
  obtain ⟨mark, words⟩ := both
  cases h with
  | opening => exact malformed_of_blank (congrArg Prod.snd hparts) hblank
  | orElse | closing | interpolation => cases hparts

theorem Says.getLast?_ne (h : Says known (parts content).1 (parts content).2 tag) :
    content.getLast? ≠ some '}' := by
  intro hlast
  -- the last word of the tag would have the brace in it
  have hword {word rest : List Char} (hwords : (fields rest).getLast? = some word)
      (hbrace : '}' ∉ word) : rest.getLast? ≠ some '}' := by
    intro hrest
    obtain ⟨other, hother, hmem⟩ := mem_getLast?_fields hrest (by decide)
    obtain rfl : word = other := Option.some.inj (hwords.symm.trans hother)
    exact hbrace hmem
  have hbehind {mark : Char} {rest : List Char} (hmark : mark ≠ '}')
      (h : (mark :: rest).getLast? = some '}') : rest.getLast? = some '}' := by
    cases rest with
    | nil => exact absurd (Option.some.inj h) hmark
    | cons c rest => exact h
  have hpath {path : Path} (hvalid : path.Valid) : '}' ∉ path.dotted.toList :=
    hvalid.isWord.not_mem (by decide)
  generalize hparts : parts content = both at h
  obtain ⟨mark, words⟩ := both
  cases h with
  | orElse =>
      obtain ⟨-, -, hfields⟩ := parts_eq_bare hparts
      have hlast' : (fields content).getLast? = some "else".toList := by rw [hfields]; rfl
      exact hword hlast' (by decide) hlast
  | opening hvalid =>
      obtain ⟨rest, rfl, hfields⟩ := parts_eq_opening hparts
      exact hword (by rw [hfields]; rfl) (hpath hvalid) (hbehind (by decide) hlast)
  | closing kind =>
      obtain ⟨rest, rfl, hfields⟩ := parts_eq_closing hparts
      have hkeyword : '}' ∉ kind.keyword.toList := by rcases kind with (_ | _) | _ <;> decide
      exact hword (by rw [hfields]; rfl) hkeyword (hbehind (by decide) hlast)
  | interpolation _ hvalid =>
      obtain ⟨-, -, hfields⟩ := parts_eq_bare hparts
      have hlast' := (congrArg List.getLast? hfields).trans List.getLast?_concat
      exact hword hlast' (hpath hvalid) hlast

end Tag

end Scaffold
