import Scaffold.Context

namespace Scaffold

/-!
# The grammar of paths

A written path is read exactly when it is the dotted form of a valid path.
Walking along a valid path meets no index that fails to be a number, so
resolving one either finds a value or finds nothing.
-/

namespace Text

theorem joinWith_cons_cons (sep piece next : List Char) (pieces : List (List Char)) :
    joinWith sep (piece :: next :: pieces) = piece ++ sep ++ joinWith sep (next :: pieces) := rfl

theorem joinWith_eq_intercalate (sep : List Char) (pieces : List (List Char)) :
    joinWith sep pieces = sep.intercalate pieces := by
  induction pieces with
  | nil => rfl
  | cons piece pieces ih =>
      cases pieces with
      | nil => simp [joinWith]
      | cons next pieces => rw [joinWith_cons_cons, ih, List.intercalate_cons_cons]

/-- A piece without the separator is cut off whole. -/
theorem splitOn_append_sep {sep : Char} {piece : List Char} (h : sep ∉ piece) (s : List Char) :
    splitOn sep (piece ++ sep :: s) = piece :: splitOn sep s := by
  induction piece with
  | nil => simp [splitOn]
  | cons c cs ih =>
      obtain ⟨hc, hcs⟩ := not_or.mp (fun hm => h (List.mem_cons.mpr hm))
      rw [List.cons_append, splitOn, if_neg (Ne.symm hc), ih hcs]

theorem splitOn_of_not_mem {sep : Char} {s : List Char} (h : sep ∉ s) : splitOn sep s = [s] := by
  induction s with
  | nil => rfl
  | cons c cs ih =>
      obtain ⟨hc, hcs⟩ := not_or.mp (fun hm => h (List.mem_cons.mpr hm))
      rw [splitOn, if_neg (Ne.symm hc), ih hcs]

/-- Splitting undoes joining. -/
theorem splitOn_joinWith {sep : Char} {pieces : List (List Char)} (hne : pieces ≠ [])
    (h : ∀ piece ∈ pieces, sep ∉ piece) : splitOn sep (joinWith [sep] pieces) = pieces := by
  induction pieces with
  | nil => exact absurd rfl hne
  | cons piece pieces ih =>
      have hpiece : sep ∉ piece := h piece List.mem_cons_self
      cases pieces with
      | nil => exact splitOn_of_not_mem hpiece
      | cons next pieces =>
          have hrest := ih (by simp) (fun p hp => h p (List.mem_cons_of_mem _ hp))
          rw [joinWith_cons_cons, List.append_assoc, List.singleton_append,
            splitOn_append_sep hpiece, hrest]

end Text

/-! ## Characters of names and indices -/

namespace Path

theorem isNameChar_of_isNameStart {c : Char} (h : isNameStart c = true) :
    isNameChar c = true := by
  simp only [isNameStart, isNameChar, Char.isAlphanum, Bool.or_eq_true] at h ⊢
  rcases h with h | h
  · exact Or.inl (Or.inl (Or.inl h))
  · exact Or.inl (Or.inr h)

theorem isNameChar_of_mem_isName {s : List Char} (h : isName s = true) {c : Char} (hc : c ∈ s) :
    isNameChar c = true := by
  cases s with
  | nil => simp at hc
  | cons d ds =>
      obtain ⟨hd, hds⟩ := Bool.and_eq_true_iff.mp h
      rcases List.mem_cons.mp hc with rfl | hc
      · exact isNameChar_of_isNameStart hd
      · exact List.all_eq_true.mp hds c hc

theorem isDecimal_of_mem_isIndex {s : List Char} (h : isIndex s = true) {c : Char} (hc : c ∈ s) :
    Text.isDecimal c = true :=
  List.all_eq_true.mp (Bool.and_eq_true_iff.mp h).2 c hc

/-- A segment is a name or an index. -/
def IsSegment (s : List Char) : Prop :=
  isName s = true ∨ isIndex s = true

/-- A character that neither names nor indices hold is in no segment. -/
theorem IsSegment.not_mem {s : List Char} (h : IsSegment s) {c : Char}
    (hname : isNameChar c = false) (hindex : Text.isDecimal c = false) : c ∉ s := by
  intro hc
  rcases h with h | h
  · simp [isNameChar_of_mem_isName h hc] at hname
  · simp [isDecimal_of_mem_isIndex h hc] at hindex

theorem IsSegment.dot_not_mem {s : List Char} (h : IsSegment s) : '.' ∉ s :=
  h.not_mem (by decide) (by decide)

theorem badSegment?_eq_none_iff (segments : List (List Char)) :
    badSegment? segments = none ↔ ∀ s ∈ segments, IsSegment s := by
  simp only [badSegment?, List.find?_eq_none, IsSegment]
  constructor
  · intro h s hs
    have hbad := h s hs
    revert hbad
    cases isName s <;> cases isIndex s <;> simp
  · intro h s hs
    rcases h s hs with h | h <;> simp [h]

/-! ## Valid paths -/

/-- A loop variable alone, or a name with segments after it. -/
inductive Valid : Path → Prop
  | variable (v : LoopVariable) : Valid ⟨v.name, []⟩
  | name {head : String} {rest : List String} (hhead : isName head.toList = true)
      (hrest : ∀ s ∈ rest, IsSegment s.toList) : Valid ⟨head, rest⟩

theorem toList_dotted (p : Path) :
    p.dotted.toList = Text.joinWith ['.'] (p.segments.map String.toList) := by
  rw [dotted, String.toList_intercalate, Text.joinWith_eq_intercalate]
  rfl

theorem dot_not_mem_name (v : LoopVariable) : '.' ∉ v.name.toList := by
  cases v <;> decide

theorem Valid.dot_not_mem {p : Path} (h : p.Valid) :
    ∀ s ∈ p.segments.map String.toList, '.' ∉ s := by
  cases h with
  | «variable» v => simpa [segments] using dot_not_mem_name v
  | name hhead hrest =>
      intro s hs
      obtain ⟨t, ht, rfl⟩ := List.mem_map.mp hs
      rcases List.mem_cons.mp ht with rfl | ht
      · exact IsSegment.dot_not_mem (Or.inl hhead)
      · exact (hrest t ht).dot_not_mem

/-- A valid path falls into its segments again. -/
theorem Valid.splitOn_dotted {p : Path} (h : p.Valid) :
    Text.splitOn '.' p.dotted.toList = p.segments.map String.toList := by
  rw [toList_dotted]
  exact Text.splitOn_joinWith (by simp [segments]) h.dot_not_mem

theorem head?_of_isName {s : List Char} (h : isName s = true) : (s.head? == some '@') = false := by
  cases s with
  | nil => rfl
  | cons c cs =>
      have hc : isNameStart c = true := (Bool.and_eq_true_iff.mp h).1
      have hne : c ≠ '@' := by
        rintro rfl
        exact absurd hc (by decide)
      simpa using hne

theorem head?_name (v : LoopVariable) : (v.name.toList.head? == some '@') = true := by
  cases v <;> decide

theorem Valid.parse_dotted {p : Path} (h : p.Valid) : parse p.dotted.toList = .ok p := by
  unfold parse
  rw [h.splitOn_dotted]
  cases h with
  | «variable» v =>
      simp [segments, head?_name]
  | @name head rest hhead hrest =>
      have hbad : badSegment? (rest.map String.toList) = none :=
        (badSegment?_eq_none_iff _).mpr (by simpa using hrest)
      have hstrings : (rest.map String.toList).map String.ofList = rest := by
        simp
      simp only [segments, List.map_cons, String.ofList_toList, hstrings, head?_of_isName hhead,
        hhead, hbad]
      rfl

theorem ofName?_eq_some {s : String} {v : LoopVariable} (h : LoopVariable.ofName? s = some v) :
    s = v.name := by
  have hv := List.find?_some h
  exact (beq_iff_eq.mp hv).symm

/-- What is read is valid, and its dotted form is what was read. -/
theorem parse_sound {raw : List Char} {p : Path} (h : parse raw = .ok p) :
    p.Valid ∧ p.dotted.toList = raw := by
  have hjoin := Text.joinWith_splitOn '.' raw
  unfold parse at h
  cases hs : Text.splitOn '.' raw with
  | nil => simp [hs] at h
  | cons head rest =>
      rw [hs] at h hjoin
      have hdotted :
          (Path.mk (String.ofList head) (rest.map String.ofList)).dotted.toList = raw := by
        rw [toList_dotted]
        simpa [segments] using hjoin
      by_cases hat : (head.head? == some '@') = true
      · cases hv : LoopVariable.ofName? (String.ofList head) with
        | none => simp [hat, hv] at h
        | some v =>
            cases rest with
            | cons s rest => simp [hat, hv] at h
            | nil =>
                simp only [hat, hv] at h
                cases h
                refine ⟨?_, hdotted⟩
                rw [ofName?_eq_some hv]
                exact .variable v
      · by_cases hname : isName head = true
        · cases hbad : badSegment? rest with
          | some s => simp [hat, hname, hbad] at h
          | none =>
              simp only [hat, hname, hbad] at h
              cases h
              refine ⟨.name (by simpa using hname) ?_, hdotted⟩
              simpa using (badSegment?_eq_none_iff rest).mp hbad
        · simp [hat, hname] at h

/-- A written path is read exactly when it is the dotted form of a valid path. -/
theorem parse_eq_ok_iff {raw : List Char} {p : Path} :
    parse raw = .ok p ↔ p.Valid ∧ p.dotted.toList = raw := by
  constructor
  · exact parse_sound
  · rintro ⟨hp, rfl⟩
    exact hp.parse_dotted

instance (p : Path) : Decidable p.Valid :=
  decidable_of_iff ((parse p.dotted.toList).toOption = some p) <| by
    constructor
    · intro h
      cases hparse : parse p.dotted.toList with
      | error flaw =>
          rw [hparse] at h
          cases h
      | ok q =>
          rw [hparse] at h
          cases h
          exact (parse_sound hparse).1
    · intro h
      rw [h.parse_dotted]
      rfl

end Path

/-! ## Walking along valid paths -/

namespace Value

theorem isDigit_of_isNameStart {c : Char} (h : Path.isNameStart c = true) :
    Text.isDigit c = false := by
  have hc : c.isAlpha = true ∨ c = '_' := by
    simpa [Path.isNameStart] using h
  have hval : c.val < 128 ∧ ¬(48 ≤ c.val ∧ c.val ≤ 57) := by
    rcases hc with hc | rfl
    · have hletter : (65 ≤ c.val ∧ c.val ≤ 90) ∨ (97 ≤ c.val ∧ c.val ≤ 122) := by
        rcases Bool.or_eq_true_iff.mp hc with hupper | hlower
        · exact Or.inl (of_decide_eq_true hupper)
        · have hbounds := Bool.and_eq_true_iff.mp hlower
          exact Or.inr ⟨of_decide_eq_true hbounds.1, of_decide_eq_true hbounds.2⟩
      simp only [UInt32.le_iff_toNat_le, UInt32.lt_iff_toNat_lt] at hletter ⊢
      constructor
      · rcases hletter with hc | hc <;> simp at hc ⊢ <;> omega
      · rcases hletter with hc | hc <;> simp at hc ⊢ <;> omega
    · decide
  simp only [Text.isDigit, Text.classify, hval.1, ↓reduceIte, Char.isDigit]
  simpa using hval.2

/-- A name never selects an item of a list. -/
theorem isIndex_of_isName {s : String} (h : Path.isName s.toList = true) : isIndex s = false := by
  unfold isIndex
  cases hs : s.toList with
  | nil => simp [hs, Path.isName] at h
  | cons c cs =>
      have hc : Path.isNameStart c = true := by
        rw [hs] at h
        exact (Bool.and_eq_true_iff.mp h).1
      simp [isDigit_of_isNameStart hc]

theorem foldlM_digits {digits : List Char} (h : ∀ c ∈ digits, Text.isDecimal c = true) (n : Nat) :
    ∃ m, digits.foldlM (fun n c => (Text.decimalValue? c).map (10 * n + ·)) n = some m := by
  induction digits generalizing n with
  | nil => exact ⟨n, rfl⟩
  | cons c cs ih =>
      obtain ⟨d, hd⟩ := Option.isSome_iff_exists.mp (h c List.mem_cons_self)
      obtain ⟨m, hm⟩ := ih (fun c hc => h c (List.mem_cons_of_mem _ hc)) (10 * n + d)
      refine ⟨m, ?_⟩
      rw [List.foldlM_cons, hd]
      exact hm

/-- An index of a valid path is the numeral of a number. -/
theorem index?_of_isIndex {s : String} (h : Path.isIndex s.toList = true) :
    ∃ n, index? s = .ok n := by
  obtain ⟨n, hn⟩ := foldlM_digits (fun c hc => Path.isDecimal_of_mem_isIndex h hc) 0
  exact ⟨n, by rw [index?, hn]⟩

theorem child?_total (v : Value) {s : String} (h : Path.IsSegment s.toList) :
    ∃ part, v.child? s = .ok part := by
  cases v with
  | map entries => exact ⟨_, rfl⟩
  | list items =>
      rcases h with h | h
      · exact ⟨none, by simp [child?, isIndex_of_isName h]⟩
      · obtain ⟨n, hn⟩ := index?_of_isIndex h
        by_cases hindex : isIndex s = true
        · exact ⟨items[n]?, by simp [child?, hindex, hn, Except.map]⟩
        · exact ⟨none, by simp [child?, hindex]⟩
  | bool | int | float | str => exact ⟨none, rfl⟩

theorem walk_cons (v : Value) (s : String) (rest : List String) {part : Option Value}
    (h : v.child? s = .ok part) :
    v.walk (s :: rest) = part.elim (.ok none) (·.walk rest) := by
  rw [walk, h]
  cases part <;> rfl

theorem walk_total (v : Value) {segments : List String}
    (h : ∀ s ∈ segments, Path.IsSegment s.toList) : ∃ found, v.walk segments = .ok found := by
  induction segments generalizing v with
  | nil => exact ⟨some v, rfl⟩
  | cons s rest ih =>
      obtain ⟨part, hpart⟩ := v.child?_total (h s List.mem_cons_self)
      rw [walk_cons v s rest hpart]
      cases part with
      | none => exact ⟨none, rfl⟩
      | some part => exact ih part (fun t ht => h t (List.mem_cons_of_mem _ ht))

end Value

/-- Along a valid path there is a value or nothing, in every scope. -/
theorem Scope.resolve_total (s : Scope) {p : Path} (h : p.Valid) :
    ∃ found, s.resolve p = .ok found := by
  cases h with
  | «variable» v =>
      refine ⟨s.bound v, ?_⟩
      have hthis : v.name ≠ "this" := by cases v <;> decide
      simp [resolve, find, hthis]
  | @name head rest hhead hrest =>
      by_cases hthis : head = "this"
      · subst hthis
        obtain ⟨found, hfound⟩ := s.this.walk_total hrest
        exact ⟨found, by simpa [resolve] using hfound⟩
      · cases hv : LoopVariable.ofName? head with
        | some v => exact ⟨s.bound v, by simp [resolve, find, hthis, hv]⟩
        | none =>
            have hsegments : ∀ t ∈ head :: rest, Path.IsSegment t.toList := by
              intro t ht
              rcases List.mem_cons.mp ht with rfl | ht
              · exact Or.inl hhead
              · exact hrest t ht
            obtain ⟨found, hfound⟩ := s.context.value.walk_total hsegments
            exact ⟨found, by simpa [resolve, find, hthis, hv, Context.resolve] using hfound⟩

end Scaffold
