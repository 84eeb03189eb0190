import Scaffold.Proofs.Fields

namespace Scaffold

/-!
# Runs of blanks

Runs of blanks that stand around a text or between two texts are left out
by trimming and divide the fields. How long they are and of which blanks
they are made does not matter for either.
-/

namespace Text

/-- There are no other characters than blanks. -/
def Blank (s : List Char) : Prop :=
  ∀ c ∈ s, isBlank c = true

instance (s : List Char) : Decidable (Blank s) :=
  List.decidableBAll (fun c : Char => isBlank c = true) s

variable {gap s t : List Char} {c : Char}

theorem Blank.append (h : Blank gap) (hs : Blank s) : Blank (gap ++ s) :=
  List.forall_mem_append.mpr ⟨h, hs⟩

theorem Blank.not_mem (h : Blank gap) (hc : isBlank c = false) : c ∉ gap := by
  intro hmem
  rw [h c hmem] at hc
  cases hc

/-- A text has no other characters than blanks, or a first one that is not blank. -/
theorem blank_or_exists (s : List Char) :
    Blank s ∨ ∃ gap c t, Blank gap ∧ isBlank c = false ∧ s = gap ++ c :: t := by
  cases hfind : s.find? (!isBlank ·) with
  | none =>
      left
      simpa [Blank] using hfind
  | some c =>
      obtain ⟨hc, gap, t, rfl, hgap⟩ := List.find?_eq_some_iff_append.mp hfind
      exact .inr ⟨gap, c, t, by simpa [Blank] using hgap, by simpa using hc, rfl⟩

/-! ## Fields between blanks -/

theorem runsFrom_append_cons {separates : Char → Bool} (current s t : List Char) {sep : Char}
    (hsep : separates sep = true) : runsFrom separates current (s ++ sep :: t) =
      runsFrom separates current s ++ runs separates t := by
  induction s generalizing current with
  | nil =>
      simp only [List.nil_append, runsFrom, if_pos hsep, runs]
      split <;> rfl
  | cons c s ih =>
      rw [List.cons_append, runsFrom, runsFrom, ih, ih]
      repeat' split
      all_goals rfl

theorem fields_blank_append (h : Blank gap) (s : List Char) : fields (gap ++ s) = fields s := by
  induction gap with
  | nil => rfl
  | cons b gap ih =>
      obtain ⟨hb, hgap⟩ := List.forall_mem_cons.mp h
      have hcut : fields ([] ++ b :: (gap ++ s)) = fields [] ++ fields (gap ++ s) :=
        runsFrom_append_cons [] [] _ hb
      exact hcut.trans (ih hgap)

theorem fields_append_blank (s : List Char) (hgap : Blank gap) (hne : gap ≠ []) (t : List Char) :
    fields (s ++ (gap ++ t)) = fields s ++ fields t := by
  obtain ⟨b, gap, rfl⟩ := List.exists_cons_of_ne_nil hne
  obtain ⟨hb, hgap⟩ := List.forall_mem_cons.mp hgap
  have hcut : fields (s ++ b :: (gap ++ t)) = fields s ++ fields (gap ++ t) :=
    runsFrom_append_cons [] s _ hb
  exact hcut.trans (congrArg (fields s ++ ·) (fields_blank_append hgap t))

theorem fields_append_of_blank (s : List Char) (h : Blank gap) :
    fields (s ++ gap) = fields s := by
  by_cases hne : gap = []
  · rw [hne, List.append_nil]
  · have hcut := fields_append_blank s h hne []
    rwa [List.append_nil, fields_nil, List.append_nil] at hcut

/-- The last character that is not blank belongs to the last field. -/
theorem mem_getLast?_fields {c : Char} (h : s.getLast? = some c) (hc : isBlank c = false) :
    ∃ word ∈ (fields s).getLast?, c ∈ word := by
  obtain ⟨s, rfl⟩ := List.getLast?_eq_some_iff.mp h
  cases hfind : s.reverse.find? isBlank with
  | none =>
      have hsolid : ∀ d ∈ s ++ [c], isBlank d = false := by
        refine List.forall_mem_append.mpr ⟨by simpa using hfind, ?_⟩
        exact List.forall_mem_singleton.mpr hc
      rw [fields_word (List.append_ne_nil_of_right_ne_nil _ (List.cons_ne_nil _ _)) hsolid]
      exact ⟨_, rfl, List.mem_append_right _ (List.mem_singleton_self c)⟩
  | some b =>
      -- the last field is what stands behind the last blank
      obtain ⟨hb, after, before, hs, hafter⟩ := List.find?_eq_some_iff_append.mp hfind
      have hs : s = before.reverse ++ b :: after.reverse := by
        rw [← List.reverse_reverse s, hs]
        simp
      have hsolid : ∀ d ∈ after.reverse ++ [c], isBlank d = false := by
        refine List.forall_mem_append.mpr ⟨by simpa using hafter, ?_⟩
        exact List.forall_mem_singleton.mpr hc
      have hfields : fields (s ++ [c]) = fields before.reverse ++ [after.reverse ++ [c]] := by
        rw [hs, List.append_assoc, List.cons_append]
        refine (runsFrom_append_cons [] _ _ hb).trans ?_
        exact congrArg (fields before.reverse ++ ·) (fields_word (by simp) hsolid)
      rw [hfields]
      exact ⟨_, List.getLast?_concat, List.mem_append_right _ (List.mem_singleton_self c)⟩

/-! ## Trimming -/

theorem blank_takeWhile (s : List Char) : Blank (s.takeWhile isBlank) := by
  intro c hc
  have hall := List.all_takeWhile (p := isBlank) (l := s)
  exact List.all_eq_true.mp hall c hc

theorem Blank.reverse (h : Blank gap) : Blank gap.reverse :=
  fun c hc => h c (List.mem_reverse.mp hc)

theorem trimStart_blank_append (h : Blank gap) (s : List Char) :
    trimStart (gap ++ s) = trimStart s := by
  rw [trimStart, List.dropWhile_append_of_pos h, trimStart]

theorem trimEnd_append_blank (s : List Char) (h : Blank gap) : trimEnd (s ++ gap) = trimEnd s := by
  rw [trimEnd, List.reverse_append, List.dropWhile_append_of_pos h.reverse, trimEnd]

theorem exists_trim (s : List Char) :
    ∃ front back, Blank front ∧ Blank back ∧ s = front ++ (trim s ++ back) := by
  refine ⟨s.takeWhile isBlank, ((trimStart s).reverse.takeWhile isBlank).reverse,
    blank_takeWhile s, (blank_takeWhile _).reverse, ?_⟩
  rw [trim, trimEnd, ← List.reverse_append, List.takeWhile_append_dropWhile, List.reverse_reverse,
    trimStart, List.takeWhile_append_dropWhile]

/-- Trimming leaves what stands between the blanks at both ends. -/
theorem trim_between {front back : List Char} (hfront : Blank front) (hs : Trimmed s)
    (hback : Blank back) : trim (front ++ (s ++ back)) = s := by
  rw [trim, trimStart_blank_append hfront]
  cases s with
  | nil =>
      have hnone : trimStart (back ++ []) = trimStart [] := trimStart_blank_append hback []
      rw [List.append_nil] at hnone
      exact congrArg trimEnd hnone
  | cons c s =>
      have hstart : trimStart (c :: s ++ back) = c :: s ++ back :=
        dropWhile_isBlank_of_head? hs.1
      have hsame : trimStart (c :: s) = c :: s := dropWhile_isBlank_of_head? hs.1
      have htrim := hs.trim_eq
      rw [trim, hsame] at htrim
      rw [hstart, trimEnd_append_blank _ hback, htrim]

theorem trim_blank_append (h : Blank gap) (s : List Char) : trim (gap ++ s) = trim s := by
  obtain ⟨front, back, hfront, hback, hs⟩ := exists_trim s
  conv => lhs; rw [hs, ← List.append_assoc]
  exact trim_between (h.append hfront) (trimmed_trim s) hback

theorem trim_append_blank (s : List Char) (h : Blank gap) : trim (s ++ gap) = trim s := by
  obtain ⟨front, back, hfront, hback, hs⟩ := exists_trim s
  conv => lhs; rw [hs, List.append_assoc, List.append_assoc]
  exact trim_between hfront (trimmed_trim s) (hback.append h)

theorem fields_trim (s : List Char) : fields (trim s) = fields s := by
  obtain ⟨front, back, hfront, hback, hs⟩ := exists_trim s
  conv => rhs; rw [hs]
  rw [fields_blank_append hfront, fields_append_of_blank _ hback]

/-- A text from its first character on that is not blank. -/
theorem trim_cons (hgap : Blank gap) (hc : isBlank c = false) (s : List Char) :
    trim (gap ++ c :: s) = c :: trimEnd s := by
  have hstart : trimStart (c :: s) = c :: s := dropWhile_isBlank_of_head? (by simpa using hc)
  have hreverse : (s.reverse ++ [c]).dropWhile isBlank = s.reverse.dropWhile isBlank ++ [c] := by
    rw [List.dropWhile_append]
    split
    · next hnil => simp [hc, List.isEmpty_iff.mp hnil]
    · rfl
  rw [trim_blank_append hgap, trim, hstart, trimEnd, List.reverse_cons, hreverse, trimEnd]
  simp

theorem exists_trimEnd (s : List Char) : ∃ back, Blank back ∧ s = trimEnd s ++ back := by
  refine ⟨(s.reverse.takeWhile isBlank).reverse, (blank_takeWhile _).reverse, ?_⟩
  rw [trimEnd, ← List.reverse_append, List.takeWhile_append_dropWhile, List.reverse_reverse]

theorem fields_trimEnd (s : List Char) : fields (trimEnd s) = fields s := by
  obtain ⟨back, hback, hs⟩ := exists_trimEnd s
  conv => rhs; rw [hs]
  rw [fields_append_of_blank _ hback]

theorem trim_eq_nil (h : Blank s) : trim s = [] := by
  have hnone : trim (s ++ []) = trim [] := trim_blank_append h []
  rwa [List.append_nil] at hnone

/-- What trimming leaves begins with the first character that is not blank. -/
theorem head?_trim (s : List Char) : (trim s).head? = s.find? (!isBlank ·) := by
  rcases blank_or_exists s with hs | ⟨gap, c, t, hgap, hc, rfl⟩
  · have hnone : s.find? (!isBlank ·) = none := by simpa [Blank] using hs
    rw [trim_eq_nil hs, hnone, List.head?_nil]
  · have hnone : gap.find? (!isBlank ·) = none := by simpa [Blank] using hgap
    rw [trim_cons hgap hc, List.find?_append, hnone, Option.none_or, List.head?_cons,
      List.find?_cons_of_pos (by simp [hc])]

theorem getLast?_trim {c : Char} (h : s.getLast? = some c) (hc : isBlank c = false) :
    (trim s).getLast? = some c := by
  obtain ⟨front, back, hfront, hback, hs⟩ := exists_trim s
  have hblank (gap : List Char) (hgap : Blank gap) : gap.getLast? ≠ some c :=
    fun hlast => hgap.not_mem hc (List.mem_of_getLast? hlast)
  rw [hs, List.getLast?_append, List.getLast?_append] at h
  rcases Option.or_eq_some_iff.mp h with h | ⟨-, h⟩
  · rcases Option.or_eq_some_iff.mp h with h | ⟨-, h⟩
    · exact absurd h (hblank back hback)
    · exact h
  · exact absurd h (hblank front hfront)

theorem infix_of_not_mem {d : Char} (hd : d ∉ s) (h : [d, d] <:+: s ++ t) : [d, d] <:+: t := by
  induction s with
  | nil => exact h
  | cons c s ih =>
      obtain ⟨hc, hs⟩ := not_or.mp (fun hmem => hd (List.mem_cons.mpr hmem))
      rw [List.cons_append, List.infix_cons_iff] at h
      rcases h with h | h
      · exact absurd (List.cons_prefix_cons.mp h).1 hc
      · exact ih hs h

/-- With blanks between two texts a doubled character stands in one of them. -/
theorem infix_of_gap {d : Char} (hd : isBlank d = false) (hgap : Blank gap) (hne : gap ≠ [])
    (h : [d, d] <:+: s ++ (gap ++ t)) : [d, d] <:+: s ∨ [d, d] <:+: t := by
  induction s with
  | nil => exact .inr (infix_of_not_mem (hgap.not_mem hd) h)
  | cons c s ih =>
      rw [List.cons_append, List.infix_cons_iff] at h
      rcases h with h | h
      · obtain ⟨rfl, hnext⟩ := List.cons_prefix_cons.mp h
        cases s with
        | nil =>
            obtain ⟨b, gap, rfl⟩ := List.exists_cons_of_ne_nil hne
            obtain ⟨rfl, -⟩ := List.cons_prefix_cons.mp hnext
            exact absurd List.mem_cons_self (hgap.not_mem hd)
        | cons e s =>
            obtain ⟨rfl, -⟩ := List.cons_prefix_cons.mp hnext
            exact .inl ⟨[], s, rfl⟩
      · exact (ih h).imp_left fun hs => List.infix_cons_iff.mpr (.inr hs)

end Text

end Scaffold
