import Scaffold.Proofs.PathSyntax
import Scaffold.Text.Blank

namespace Scaffold

/-!
# Blanks and the fields between them

What trimming leaves begins and ends with a character that is not blank,
and the fields of words with single spaces between them are these words.
No character of a path is blank.
-/

namespace Text

/-! ## Runs -/

theorem runsFrom_append {separates : Char → Bool} {word : List Char}
    (h : ∀ c ∈ word, separates c = false) (current rest : List Char) :
    runsFrom separates current (word ++ rest) =
      runsFrom separates (word.reverse ++ current) rest := by
  induction word generalizing current with
  | nil => rfl
  | cons c word ih =>
      obtain ⟨hc, hword⟩ := List.forall_mem_cons.mp h
      simp only [List.cons_append, runsFrom, hc, Bool.false_eq_true, ↓reduceIte, ih hword]
      simp

theorem runsFrom_eq_nil {separates : Char → Bool} {current s : List Char}
    (h : runsFrom separates current s = []) : ∀ c ∈ s, separates c = true := by
  induction s generalizing current with
  | nil => simp
  | cons c s ih =>
      rw [runsFrom] at h
      by_cases hc : separates c = true
      · rw [if_pos hc] at h
        split at h
        · exact List.forall_mem_cons.mpr ⟨hc, ih h⟩
        · simp at h
      · rw [if_neg hc] at h
        have hrest := ih h
        -- a run that has begun is never lost
        have hcurrent : runsFrom separates (c :: current) s ≠ [] := by
          clear h ih
          induction s generalizing c current with
          | nil => simp [runsFrom]
          | cons d s ih =>
              have hd := (List.forall_mem_cons.mp hrest).1
              simp [runsFrom, hd]
        exact absurd h hcurrent

theorem runs_of_none {separates : Char → Bool} {s : List Char} (hne : s ≠ [])
    (h : ∀ c ∈ s, separates c = false) : runs separates s = [s] := by
  have hrun := runsFrom_append h [] []
  rw [List.append_nil] at hrun
  rw [runs, hrun]
  simp [runsFrom, hne]

theorem runs_append_cons {separates : Char → Bool} {word : List Char} {sep : Char}
    (hne : word ≠ []) (h : ∀ c ∈ word, separates c = false) (hsep : separates sep = true)
    (rest : List Char) :
    runs separates (word ++ sep :: rest) = word :: runs separates rest := by
  rw [runs, runsFrom_append h]
  simp [runsFrom, hsep, hne, runs]

theorem runs_joinWith {separates : Char → Bool} {sep : Char} {words : List (List Char)}
    (hsep : separates sep = true)
    (h : ∀ word ∈ words, word ≠ [] ∧ ∀ c ∈ word, separates c = false) :
    runs separates (joinWith [sep] words) = words := by
  induction words with
  | nil => rfl
  | cons word words ih =>
      obtain ⟨⟨hne, hword⟩, hwords⟩ := List.forall_mem_cons.mp h
      cases words with
      | nil => exact runs_of_none hne hword
      | cons next words =>
          rw [joinWith_cons_cons, List.append_assoc, List.singleton_append,
            runs_append_cons hne hword hsep, ih hwords]

theorem fields_nil : fields [] = [] := rfl

theorem fields_word {word : List Char} (hne : word ≠ []) (h : ∀ c ∈ word, isBlank c = false) :
    fields word = [word] :=
  runs_of_none hne h

theorem fields_word_blank {word : List Char} {b : Char} (hne : word ≠ [])
    (h : ∀ c ∈ word, isBlank c = false) (hb : isBlank b = true) (rest : List Char) :
    fields (word ++ b :: rest) = word :: fields rest :=
  runs_append_cons hne h hb rest

theorem fields_ne_nil {s : List Char} {c : Char} (hc : c ∈ s) (hblank : isBlank c = false) :
    fields s ≠ [] := by
  intro h
  have hall := runsFrom_eq_nil h c hc
  simp [hblank] at hall

/-! ## Trimming -/

/-- Neither the first nor the last character is blank. -/
def Trimmed (s : List Char) : Prop :=
  (∀ c ∈ s.head?, isBlank c = false) ∧ ∀ c ∈ s.getLast?, isBlank c = false

theorem head?_dropWhile_isBlank (s : List Char) :
    ∀ c ∈ (s.dropWhile isBlank).head?, isBlank c = false := by
  intro c hc
  have hnot := List.head?_dropWhile_not isBlank s
  rw [hc] at hnot
  simpa using hnot

theorem trimmed_trim (s : List Char) : Trimmed (trim s) := by
  have hend : ∀ c ∈ (trim s).getLast?, isBlank c = false := by
    rw [trim, trimEnd, List.getLast?_reverse]
    exact head?_dropWhile_isBlank _
  refine ⟨?_, hend⟩
  -- the start of a trimmed end is the start of the text, unless nothing is left
  intro c hc
  have hprefix : trim s <+: trimStart s := by
    rw [trim, trimEnd, ← List.reverse_suffix, List.reverse_reverse]
    exact List.dropWhile_suffix _
  obtain ⟨rest, hrest⟩ := hprefix
  refine head?_dropWhile_isBlank s c ?_
  obtain ⟨tail, htail⟩ := List.head?_eq_some_iff.mp hc
  rw [trimStart] at hrest
  rw [← hrest, htail]
  rfl

theorem dropWhile_isBlank_of_head? {s : List Char} (h : ∀ c ∈ s.head?, isBlank c = false) :
    s.dropWhile isBlank = s := by
  cases s with
  | nil => rfl
  | cons c s => simp [h c rfl]

theorem head?_trim_cons {c : Char} (hc : isBlank c = false) (s : List Char) :
    (trim (c :: s)).head? = some c := by
  have hstart : trimStart (c :: s) = c :: s := dropWhile_isBlank_of_head? (by simpa using hc)
  rw [trim, hstart, trimEnd, List.head?_reverse, List.reverse_cons, List.dropWhile_append]
  split <;> simp [hc]

theorem Trimmed.trim_eq {s : List Char} (h : Trimmed s) : trim s = s := by
  have hend : ∀ c ∈ s.reverse.head?, isBlank c = false := by
    rw [List.head?_reverse]
    exact h.2
  rw [trim, trimStart, dropWhile_isBlank_of_head? h.1, trimEnd, dropWhile_isBlank_of_head? hend,
    List.reverse_reverse]

/-- A trimmed text of one field is this field. -/
theorem Trimmed.eq_of_fields {s word : List Char} (h : Trimmed s) (hfields : fields s = [word]) :
    s = word := by
  cases hfind : s.find? isBlank with
  | none =>
      have hblank : ∀ c ∈ s, isBlank c = false := by simpa using hfind
      have hne : s ≠ [] := by
        rintro rfl
        simp [fields_nil] at hfields
      rw [fields_word hne hblank] at hfields
      exact List.head_eq_of_cons_eq hfields
  | some b =>
      -- a blank inside has a field on either side
      obtain ⟨hb, front, back, rfl, hfront⟩ := List.find?_eq_some_iff_append.mp hfind
      have hfront' : ∀ c ∈ front, isBlank c = false := by simpa using hfront
      have hne : front ≠ [] := by
        rintro rfl
        have hhead := h.1 b rfl
        simp [hb] at hhead
      rw [fields_word_blank hne hfront' hb] at hfields
      have hback : fields back = [] := (List.cons.inj hfields).2
      cases hlast : back.getLast? with
      | none =>
          have hend := h.2 b (by simp [List.getLast?_eq_none_iff.mp hlast])
          simp [hb] at hend
      | some c =>
          have hc : isBlank c = false :=
            h.2 c (by simp [List.getLast?_append, List.getLast?_cons, hlast])
          exact absurd hback (fields_ne_nil (List.mem_of_getLast? hlast) hc)

/-- Words with one space after each, and a last word. -/
def spaced (words : List (List Char)) (last : List Char) : List Char :=
  words.foldr (fun word after => word ++ ' ' :: after) last

/-- A text that is one field. -/
structure IsWord (s : List Char) : Prop where
  ne_nil : s ≠ []
  not_blank : ∀ c ∈ s, isBlank c = false

theorem isWord_of_all {s : List Char} (hne : s ≠ [])
    (h : (s.all fun c => !isBlank c) = true) : IsWord s where
  ne_nil := hne
  not_blank c hc := by simpa using List.all_eq_true.mp h c hc

theorem fields_spaced {words : List (List Char)} {last : List Char}
    (h : ∀ word ∈ words, IsWord word) (hlast : IsWord last) :
    fields (spaced words last) = words ++ [last] := by
  induction words with
  | nil => exact fields_word hlast.ne_nil hlast.not_blank
  | cons word words ih =>
      obtain ⟨hword, hwords⟩ := List.forall_mem_cons.mp h
      have hrest : fields (spaced words last) = words ++ [last] := ih hwords
      have hspace : isBlank ' ' = true := by decide
      rw [spaced, List.foldr_cons, fields_word_blank hword.ne_nil hword.not_blank hspace]
      exact congrArg (word :: ·) hrest

theorem IsWord.trimmed {s : List Char} (h : IsWord s) : Trimmed s := by
  constructor
  · intro c hc
    exact h.not_blank c (List.mem_of_mem_head? hc)
  · intro c hc
    exact h.not_blank c (List.mem_of_getLast? hc)

theorem IsWord.trimmed_between {front back : List Char} (hfront : IsWord front)
    (hback : IsWord back) (middle : List Char) : Trimmed (front ++ (middle ++ back)) := by
  constructor
  · intro c hc
    obtain ⟨d, rest, rfl⟩ := List.exists_cons_of_ne_nil hfront.ne_nil
    exact hfront.not_blank c (List.mem_of_mem_head? hc)
  · intro c hc
    have hlast : back.getLast? = some (back.getLast hback.ne_nil) :=
      List.getLast?_eq_some_getLast hback.ne_nil
    rw [← List.append_assoc, List.getLast?_append, hlast, Option.some_or] at hc
    exact hback.not_blank c (List.mem_of_getLast? (hlast.trans hc))

theorem spaced_eq_append (words : List (List Char)) (last : List Char) :
    spaced words last = words.flatMap (· ++ [' ']) ++ last := by
  induction words with
  | nil => rfl
  | cons word words ih => simpa [spaced] using ih

theorem trimmed_spaced {words : List (List Char)} {last : List Char}
    (h : ∀ word ∈ words, IsWord word) (hlast : IsWord last) : Trimmed (spaced words last) := by
  cases words with
  | nil => exact hlast.trimmed
  | cons word words =>
      have hword : IsWord word := h word (List.mem_cons_self ..)
      have heq : spaced (word :: words) last =
          word ++ ((' ' :: words.flatMap (· ++ [' '])) ++ last) := by
        rw [spaced_eq_append]
        simp
      rw [heq]
      exact hword.trimmed_between hlast _

/-! ## Characters that are not blank -/

/-- A class of characters that holds none of the blanks, which are few. -/
theorem not_isBlank_of {p : Char → Bool}
    (hascii : ((List.range 128).all fun n => !(isBlank (Char.ofNat n) && p (Char.ofNat n))) = true)
    (hwide : (wideBlanks.all fun c => !p c) = true) {c : Char} (h : p c = true) :
    isBlank c = false := by
  by_cases hc : c.val < 128
  · have hn : c.toNat < 128 := UInt32.lt_iff_toNat_lt.mp hc
    have hnone := List.all_eq_true.mp hascii c.toNat (List.mem_range.mpr hn)
    rw [Char.ofNat_toNat, h, Bool.and_true] at hnone
    simpa using hnone
  · rw [isBlank, if_neg hc, decide_eq_false_iff_not]
    intro hmem
    have hnone := List.all_eq_true.mp hwide c hmem
    simp [h] at hnone

theorem not_isBlank_of_isDecimal {c : Char} (h : isDecimal c = true) : isBlank c = false :=
  not_isBlank_of (by decide) (by decide) h

theorem not_isBlank_of_isNameChar {c : Char} (h : Path.isNameChar c = true) :
    isBlank c = false :=
  not_isBlank_of (by decide) (by decide) h

theorem eq_sep_or_mem_of_mem_joinWith {sep c : Char} {pieces : List (List Char)}
    (h : c ∈ joinWith [sep] pieces) : c = sep ∨ ∃ piece ∈ pieces, c ∈ piece := by
  induction pieces with
  | nil => simp [joinWith] at h
  | cons piece pieces ih =>
      cases pieces with
      | nil => exact Or.inr ⟨piece, List.mem_cons_self .., h⟩
      | cons next pieces =>
          rw [joinWith_cons_cons, List.append_assoc] at h
          rcases List.mem_append.mp h with h | h
          · exact Or.inr ⟨piece, List.mem_cons_self .., h⟩
          · rcases List.mem_cons.mp h with h | h
            · exact Or.inl h
            · obtain hc | ⟨other, hother, hc⟩ := ih h
              · exact Or.inl hc
              · exact Or.inr ⟨other, List.mem_cons_of_mem _ hother, hc⟩

end Text

/-! ## Words of tags -/

/-- A character that a written path can hold. -/
def Path.IsPathChar (c : Char) : Prop :=
  Path.isNameChar c = true ∨ Text.isDecimal c = true ∨ c = '.' ∨ c = '@'

theorem Path.IsPathChar.not_blank {c : Char} (h : Path.IsPathChar c) :
    Text.isBlank c = false := by
  rcases h with h | h | rfl | rfl
  · exact Text.not_isBlank_of_isNameChar h
  · exact Text.not_isBlank_of_isDecimal h
  · decide
  · decide

instance : DecidablePred Path.IsPathChar := fun _ => inferInstanceAs (Decidable (_ ∨ _))

/-- A word of a tag: a helper or a path. -/
structure Tag.IsWord (s : List Char) : Prop where
  ne_nil : s ≠ []
  pathChars : ∀ c ∈ s, Path.IsPathChar c

theorem Tag.IsWord.not_mem {s : List Char} (h : Tag.IsWord s) {c : Char}
    (hc : ¬Path.IsPathChar c) : c ∉ s :=
  fun hmem => hc (h.pathChars c hmem)

theorem Tag.IsWord.isWord {s : List Char} (h : Tag.IsWord s) : Text.IsWord s where
  ne_nil := h.ne_nil
  not_blank c hc := (h.pathChars c hc).not_blank

theorem Path.IsSegment.pathChars {s : List Char} (h : IsSegment s) : ∀ c ∈ s, IsPathChar c := by
  intro c hc
  rcases h with h | h
  · exact Or.inl (isNameChar_of_mem_isName h hc)
  · exact Or.inr (Or.inl (isDecimal_of_mem_isIndex h hc))

theorem LoopVariable.pathChars (v : LoopVariable) : ∀ c ∈ v.name.toList, Path.IsPathChar c := by
  intro c hc
  have hall : (v.name.toList.all fun c => Path.isNameChar c || c == '@') = true := by
    cases v <;> decide
  rcases Bool.or_eq_true_iff.mp (List.all_eq_true.mp hall c hc) with h | h
  · exact Or.inl h
  · exact Or.inr (Or.inr (Or.inr (beq_iff_eq.mp h)))

theorem Path.Valid.segment_pathChars {p : Path} (h : p.Valid) :
    ∀ s ∈ p.segments.map String.toList, ∀ c ∈ s, IsPathChar c := by
  cases h with
  | «variable» v => simpa [segments] using v.pathChars
  | name hhead hrest =>
      intro s hs
      rcases List.mem_cons.mp hs with rfl | hs
      · exact IsSegment.pathChars (Or.inl hhead)
      · obtain ⟨segment, hsegment, rfl⟩ := List.mem_map.mp hs
        exact (hrest segment hsegment).pathChars

theorem Path.Valid.isWord {p : Path} (h : p.Valid) : Tag.IsWord p.dotted.toList := by
  constructor
  · intro hnil
    have hparse := h.parse_dotted
    rw [hnil] at hparse
    cases hparse
  · intro c hc
    rw [toList_dotted] at hc
    obtain rfl | ⟨s, hs, hc⟩ := Text.eq_sep_or_mem_of_mem_joinWith hc
    · exact Or.inr (Or.inr (Or.inl rfl))
    · exact h.segment_pathChars s hs c hc

end Scaffold
