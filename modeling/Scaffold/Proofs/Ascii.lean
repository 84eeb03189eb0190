import Mathlib
import Scaffold.Words

namespace Scaffold

/-!
# ASCII text

On ASCII text the classes of characters and the changes of case are the
simple ones: one character for one character, and no sigma. Facts about
single characters are checked for all 128 of them.
-/

namespace Text

/-- All characters are ASCII. -/
def Ascii (s : List Char) : Prop :=
  ∀ c ∈ s, c.val < 128

instance (s : List Char) : Decidable (Ascii s) :=
  List.decidableBAll (fun c : Char => c.val < 128) s

theorem Ascii.append {s t : List Char} (hs : Ascii s) (ht : Ascii t) : Ascii (s ++ t) :=
  List.forall_mem_append.mpr ⟨hs, ht⟩

variable {c d : Char}

/-- What holds of the first 128 characters holds of every ASCII character. -/
theorem forall_ascii {P : Char → Prop} (h : ∀ n : Fin 128, P (Char.ofNat n)) (c : Char)
    (hc : c.val < 128) : P c := by
  have hn : c.toNat < 128 := UInt32.lt_iff_toNat_lt.mp hc
  have hP := h ⟨c.toNat, hn⟩
  rwa [Char.ofNat_toNat] at hP

/-! ## Classes -/

theorem isAlphanumeric_of_ascii (hc : c.val < 128) : isAlphanumeric c = c.isAlphanum :=
  if_pos hc

theorem isDigit_eq_of_ascii (hc : c.val < 128) : isDigit c = c.isDigit :=
  if_pos hc

theorem isUpper_of_ascii (hc : c.val < 128) : isUpper c = c.isUpper :=
  if_pos hc

theorem isLower_of_ascii (hc : c.val < 128) : isLower c = c.isLower :=
  if_pos hc

theorem ascii_of_isAlphanum (h : c.isAlphanum = true) : c.val < 128 := by
  simp only [Char.isAlphanum, Char.isAlpha, Char.isUpper, Char.isLower, Char.isDigit,
    Bool.or_eq_true, Bool.and_eq_true, decide_eq_true_eq, ge_iff_le, UInt32.le_iff_toNat_le] at h
  rw [UInt32.lt_iff_toNat_lt]
  change c.val.toNat < 128
  have hupper : 'Z'.val.toNat = 90 := rfl
  have hlower : 'z'.val.toNat = 122 := rfl
  have hnine : '9'.val.toNat = 57 := rfl
  omega

theorem isAlpha_of_isDigit : ∀ c : Char, c.val < 128 → c.isDigit = true → c.isAlpha = false :=
  forall_ascii (by decide)

theorem isAlpha_of_isLower (h : c.isLower = true) : c.isAlpha = true := by
  rw [Char.isAlpha, h, Bool.or_true]

/-! ## Case -/

theorem ascii_toUpper : ∀ c : Char, c.val < 128 → c.toUpper.val < 128 :=
  forall_ascii (by decide)

theorem ascii_toLower : ∀ c : Char, c.val < 128 → c.toLower.val < 128 :=
  forall_ascii (by decide)

theorem isAlphanum_toUpper : ∀ c : Char, c.val < 128 → c.toUpper.isAlphanum = c.isAlphanum :=
  forall_ascii (by decide)

theorem isAlphanum_toLower : ∀ c : Char, c.val < 128 → c.toLower.isAlphanum = c.isAlphanum :=
  forall_ascii (by decide)

theorem lowerChar_of_ascii (hc : c.val < 128) : lowerChar c = [c.toLower] :=
  if_pos hc

theorem upperChar_of_ascii (hc : c.val < 128) : upperChar c = [c.toUpper] :=
  if_pos hc

theorem titleChar_of_ascii (hc : c.val < 128) : titleChar c = [c.toUpper] :=
  if_pos hc

theorem lowerAfter_of_ascii {s : List Char} (h : Ascii s) (before : Bool) :
    lowerAfter before s = s.map Char.toLower := by
  induction s generalizing before with
  | nil => rfl
  | cons c s ih =>
      obtain ⟨hc, hs⟩ := List.forall_mem_cons.mp h
      have hsigma : (c == 'Σ') = false := by
        refine beq_eq_false_iff_ne.mpr ?_
        rintro rfl
        exact absurd hc (by decide)
      rw [lowerAfter, hsigma, ih hs, lowerChar_of_ascii hc]
      rfl

/-- A capitalised ASCII word has its first letter in upper and the others in lower case. -/
theorem capitalize_of_ascii {s : List Char} (h : Ascii (c :: s)) :
    capitalize (c :: s) = c.toUpper :: s.map Char.toLower := by
  obtain ⟨hc, hs⟩ := List.forall_mem_cons.mp h
  rw [capitalize, titleChar_of_ascii hc, lowerAfter_of_ascii hs]
  rfl

theorem lower_of_ascii {s : List Char} (h : Ascii s) : lower s = s.map Char.toLower :=
  lowerAfter_of_ascii h false

theorem upper_of_ascii {s : List Char} (h : Ascii s) : upper s = s.map Char.toUpper := by
  induction s with
  | nil => rfl
  | cons c s ih =>
      obtain ⟨hc, hs⟩ := List.forall_mem_cons.mp h
      rw [upper, List.flatMap_cons, upperChar_of_ascii hc]
      exact congrArg (c.toUpper :: ·) (ih hs)

theorem ascii_lower {s : List Char} (h : Ascii s) : Ascii (lower s) := by
  rw [lower_of_ascii h]
  exact List.forall_mem_map.mpr fun c hc => ascii_toLower c (h c hc)

theorem ascii_upper {s : List Char} (h : Ascii s) : Ascii (upper s) := by
  rw [upper_of_ascii h]
  exact List.forall_mem_map.mpr fun c hc => ascii_toUpper c (h c hc)

theorem ascii_capitalize {s : List Char} (h : Ascii s) : Ascii (capitalize s) := by
  cases s with
  | nil => exact h
  | cons c s =>
      obtain ⟨hc, hs⟩ := List.forall_mem_cons.mp h
      rw [capitalize_of_ascii h]
      refine List.forall_mem_cons.mpr ⟨ascii_toUpper c hc, ?_⟩
      exact List.forall_mem_map.mpr fun d hd => ascii_toLower d (hs d hd)

/-! ## Changes of case in a row

The last change decides.
-/

theorem map_toLower_toLower (s : List Char) :
    (s.map Char.toLower).map Char.toLower = s.map Char.toLower := by
  rw [List.map_map]
  exact List.map_congr_left fun c _ => c.toLower_toLower_eq_toLower

theorem lower_lower {s : List Char} (h : Ascii s) : lower (lower s) = lower s := by
  rw [lower_of_ascii (ascii_lower h), lower_of_ascii h]
  exact map_toLower_toLower s

theorem lower_upper {s : List Char} (h : Ascii s) : lower (upper s) = lower s := by
  rw [lower_of_ascii (ascii_upper h), lower_of_ascii h, upper_of_ascii h, List.map_map]
  exact List.map_congr_left fun c _ => c.toLower_toUpper_eq_toLower

theorem upper_lower {s : List Char} (h : Ascii s) : upper (lower s) = upper s := by
  rw [upper_of_ascii (ascii_lower h), upper_of_ascii h, lower_of_ascii h, List.map_map]
  exact List.map_congr_left fun c _ => c.toUpper_toLower_eq_toUpper

theorem lower_capitalize {s : List Char} (h : Ascii s) : lower (capitalize s) = lower s := by
  cases s with
  | nil => rfl
  | cons c s =>
      rw [lower_of_ascii (ascii_capitalize h), lower_of_ascii h, capitalize_of_ascii h,
        List.map_cons, List.map_cons, Char.toLower_toUpper_eq_toLower, map_toLower_toLower]

theorem capitalize_lower {s : List Char} (h : Ascii s) : capitalize (lower s) = capitalize s := by
  cases s with
  | nil => rfl
  | cons c s =>
      have hlower := ascii_lower h
      rw [lower_of_ascii h, List.map_cons] at hlower
      rw [lower_of_ascii h, List.map_cons, capitalize_of_ascii hlower, capitalize_of_ascii h,
        Char.toUpper_toLower_eq_toUpper, map_toLower_toLower]

end Text

namespace Words

open Text

variable {c d : Char}

/-- Two ASCII letters or digits are of one kind when both are letters or both are digits. -/
theorem letterKind_eq_iff (hc : c.val < 128) (hd : d.val < 128) (halc : c.isAlphanum = true)
    (hald : d.isAlphanum = true) :
    letterKind d = letterKind c ↔ d.isAlpha = c.isAlpha := by
  have hkind : ∀ c : Char, c.val < 128 → c.isAlphanum = true →
      letterKind c = if c.isAlpha then .cased else .digit := by
    intro c hc halc
    rw [letterKind, isDigit_eq_of_ascii hc, isUpper_of_ascii hc, isLower_of_ascii hc]
    revert halc
    revert c
    exact forall_ascii (by decide)
  rw [hkind c hc halc, hkind d hd hald]
  cases c.isAlpha <;> cases d.isAlpha <;> simp

end Words

end Scaffold
