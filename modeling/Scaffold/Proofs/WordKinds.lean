import Scaffold.Proofs.Ascii
import Scaffold.Proofs.Fields

namespace Scaffold

/-!
# The kinds of words

The words of a text are runs of letters and digits of one kind. In an ASCII
text these are words of letters and numbers, and they stay so when their
case is changed. Only a capital or a change of kind cuts a run of letters
and digits.
-/

namespace Text

theorem reverse_run {separates : Char → Bool} {current : List Char}
    (hcurrent : ∀ c ∈ current, separates c = false) (hne : ¬current.isEmpty = true)
    (s : List Char) :
    current.reverse ≠ [] ∧ (∀ c ∈ current.reverse, separates c = false) ∧
      ∀ c ∈ current.reverse, c ∈ current ∨ c ∈ s := by
  refine ⟨by simpa using hne, fun c hc => ?_, fun c hc => ?_⟩
  · exact hcurrent c (List.mem_reverse.mp hc)
  · exact .inl (List.mem_reverse.mp hc)

theorem mem_runsFrom {separates : Char → Bool} {current s run : List Char}
    (hcurrent : ∀ c ∈ current, separates c = false)
    (h : run ∈ runsFrom separates current s) :
    run ≠ [] ∧ (∀ c ∈ run, separates c = false) ∧ ∀ c ∈ run, c ∈ current ∨ c ∈ s := by
  induction s generalizing current with
  | nil =>
      rw [runsFrom] at h
      split at h
      · cases h
      · next hne =>
          rw [List.mem_singleton] at h
          subst h
          exact reverse_run hcurrent hne []
  | cons d s ih =>
      have hlater (hrun : run ∈ runsFrom separates [] s) :
          run ≠ [] ∧ (∀ c ∈ run, separates c = false) ∧ ∀ c ∈ run, c ∈ current ∨ c ∈ d :: s := by
        obtain ⟨hne, hall, hmem⟩ := ih (List.forall_mem_nil _) hrun
        refine ⟨hne, hall, fun c hc => .inr ?_⟩
        exact List.mem_cons_of_mem _ ((hmem c hc).resolve_left List.not_mem_nil)
      rw [runsFrom] at h
      split at h
      · split at h
        · exact hlater h
        · next hne =>
            rcases List.mem_cons.mp h with rfl | h
            · exact reverse_run hcurrent hne _
            · exact hlater h
      · next hd =>
          rw [Bool.not_eq_true] at hd
          obtain ⟨hne, hall, hmem⟩ := ih (List.forall_mem_cons.mpr ⟨hd, hcurrent⟩) h
          refine ⟨hne, hall, fun c hc => ?_⟩
          rcases hmem c hc with hc | hc
          · rcases List.mem_cons.mp hc with rfl | hc
            · exact .inr List.mem_cons_self
            · exact .inl hc
          · exact .inr (List.mem_cons_of_mem _ hc)

end Text

namespace Words

open Text

/-! ## The words of a text -/

/-- What a word of a text is: a run of letters and digits of one kind. -/
structure IsWord (s word : List Char) : Prop where
  ne_nil : word ≠ []
  alphanumeric : ∀ c ∈ word, isAlphanumeric c = true
  subset : ∀ c ∈ word, c ∈ s
  oneKind : word.IsChain fun c d => letterKind d = letterKind c

theorem isWord_of_mem_splitChars {s word : List Char} (h : word ∈ splitChars s) :
    IsWord s word := by
  obtain ⟨token, htoken, hword⟩ := List.mem_flatMap.mp h
  obtain ⟨-, hall, hmem⟩ := mem_runsFrom (by simp) htoken
  have hsub : ∀ c ∈ word, c ∈ token := by
    intro c hc
    rw [← List.flatten_splitBy (joined _) token]
    exact List.mem_flatten.mpr ⟨word, hword, hc⟩
  refine ⟨List.ne_nil_of_mem_splitBy hword, fun c hc => ?_, fun c hc => ?_, ?_⟩
  · simpa using hall c (hsub c hc)
  · exact (hmem c (hsub c hc)).resolve_left (by simp)
  · refine (List.isChain_of_mem_splitBy hword).imp fun c d hcd => ?_
    rw [joined, Bool.and_eq_true, beq_iff_eq] at hcd
    exact hcd.2

/-- A text without separators is one token, and every capital in it begins a word. -/
theorem splitChars_of_alphanumeric {s : List Char} (hne : s ≠ [])
    (h : ∀ c ∈ s, isAlphanumeric c = true) : splitChars s = s.splitBy (joined true) := by
  have htokens : tokens s = [s] := runs_of_none hne fun c hc => by simp [h c hc]
  rw [splitChars, htokens]
  simp [ofToken]

variable {b j k : Bool} {c d : Char} {w : List Char}

/-! ## Words of one kind -/

/-- An ASCII letter or, if `letter` does not hold, an ASCII digit. -/
def OfKind (letter : Bool) (c : Char) : Prop :=
  c.isAlphanum = true ∧ c.isAlpha = letter

theorem OfKind.ascii (h : OfKind k c) : c.val < 128 :=
  ascii_of_isAlphanum h.1

theorem OfKind.toUpper (h : OfKind k c) : OfKind k c.toUpper :=
  ⟨(isAlphanum_toUpper c h.ascii).trans h.1, c.isAlpha_toUpper_eq_isAlpha.trans h.2⟩

theorem OfKind.toLower (h : OfKind k c) : OfKind k c.toLower :=
  ⟨(isAlphanum_toLower c h.ascii).trans h.1, c.isAlpha_toLower_eq_isAlpha.trans h.2⟩

theorem joined_iff (hc : OfKind j c) (hd : OfKind k d) :
    joined b c d = true ↔ k = j ∧ (b = true → d.isUpper = false) := by
  rw [joined, Bool.and_eq_true, beq_iff_eq, letterKind_eq_iff hc.ascii hd.ascii hc.1 hd.1, hc.2,
    hd.2, isUpper_of_ascii hd.ascii]
  cases b <;> simp [and_comm]

/-- A word of ASCII letters, or one of ASCII digits. -/
structure OneKind (letters : Bool) (w : List Char) : Prop where
  ne_nil : w ≠ []
  ofKind : ∀ c ∈ w, OfKind letters c

theorem OneKind.ascii (h : OneKind k w) : Ascii w :=
  fun c hc => (h.ofKind c hc).ascii

theorem OneKind.caseless (h : OneKind false w) :
    ∀ c ∈ w, ¬c.isUpper = true ∧ ¬c.isLower = true := by
  intro c hc
  have hno := (h.ofKind c hc).2
  rwa [Char.isAlpha, Bool.or_eq_false_iff, ← Bool.not_eq_true, ← Bool.not_eq_true] at hno

theorem OneKind.map (h : OneKind k w) {f : Char → Char}
    (hf : ∀ c, OfKind k c → OfKind k (f c)) : OneKind k (w.map f) where
  ne_nil := by simpa using h.ne_nil
  ofKind := List.forall_mem_map.mpr fun c hc => hf c (h.ofKind c hc)

theorem oneKind_lower (h : OneKind k w) : OneKind k (lower w) := by
  rw [lower_of_ascii h.ascii]
  exact h.map fun _ => OfKind.toLower

theorem oneKind_upper (h : OneKind k w) : OneKind k (upper w) := by
  rw [upper_of_ascii h.ascii]
  exact h.map fun _ => OfKind.toUpper

theorem oneKind_capitalize (h : OneKind k w) : OneKind k (capitalize w) := by
  obtain ⟨c, w, rfl⟩ := List.exists_cons_of_ne_nil h.ne_nil
  obtain ⟨hc, hw⟩ := List.forall_mem_cons.mp h.ofKind
  rw [capitalize_of_ascii h.ascii]
  refine ⟨List.cons_ne_nil _ _, List.forall_mem_cons.mpr ⟨hc.toUpper, ?_⟩⟩
  exact List.forall_mem_map.mpr fun d hd => (hw d hd).toLower

/-- A word of one kind is cut at most in front of capitals. -/
theorem OneKind.isChain_joined (h : OneKind k w)
    (hupper : b = true → ∀ d ∈ w.tail, d.isUpper = false) :
    w.IsChain fun x y => joined b x y = true := by
  obtain ⟨c, w, rfl⟩ := List.exists_cons_of_ne_nil h.ne_nil
  have hkind := h.ofKind
  clear h
  induction w generalizing c with
  | nil => exact List.isChain_singleton _
  | cons d w ih =>
      obtain ⟨hc, hw⟩ := List.forall_mem_cons.mp hkind
      refine List.isChain_cons_cons.mpr ⟨?_, ih d (fun hb x hx => ?_) hw⟩
      · apply (joined_iff hc (hw d List.mem_cons_self)).mpr
        exact ⟨rfl, fun hb => hupper hb d List.mem_cons_self⟩
      · exact hupper hb x (List.mem_cons_of_mem _ hx)

/-! ## Numbers -/

def IsNumber (w : List Char) : Prop :=
  ∀ c ∈ w, c.isDigit = true

instance : DecidablePred IsNumber :=
  fun w => List.decidableBAll (fun c : Char => c.isDigit = true) w

theorem OneKind.isNumber_iff (h : OneKind k w) : IsNumber w ↔ k = false := by
  constructor
  · intro hnumber
    obtain ⟨c, hc⟩ := List.exists_mem_of_ne_nil w h.ne_nil
    rw [← (h.ofKind c hc).2]
    exact isAlpha_of_isDigit c (h.ascii c hc) (hnumber c hc)
  · rintro rfl c hc
    obtain ⟨halnum, halpha⟩ := h.ofKind c hc
    rwa [Char.isAlphanum, halpha, Bool.false_or] at halnum

theorem ofKind_of_isDigit (h : c.isDigit = true) : OfKind false c := by
  have halnum : c.isAlphanum = true := by rw [Char.isAlphanum, h, Bool.or_true]
  exact ⟨halnum, isAlpha_of_isDigit c (ascii_of_isAlphanum halnum) h⟩

theorem oneKind_of_isNumber (hne : w ≠ []) (h : IsNumber w) : OneKind false w :=
  ⟨hne, fun c hc => ofKind_of_isDigit (h c hc)⟩

theorem capitalize_number (h : IsNumber w) : capitalize w = w := by
  cases w with
  | nil => rfl
  | cons c w =>
      have hkind := oneKind_of_isNumber (List.cons_ne_nil c w) h
      obtain ⟨hfirst, hrest⟩ := List.forall_mem_cons.mp hkind.caseless
      have hlower : w.map Char.toLower = w.map id :=
        List.map_congr_left fun d hd => Char.toLower_eq_of_not_isUpper (hrest d hd).1
      rw [capitalize_of_ascii hkind.ascii, Char.toUpper_eq_of_not_isLower hfirst.2, hlower,
        List.map_id]

/-! ## Words of either kind -/

def Uniform (w : List Char) : Prop :=
  ∃ letters, OneKind letters w

theorem Uniform.ne_nil (h : Uniform w) : w ≠ [] := by
  obtain ⟨k, hkind⟩ := h
  exact hkind.ne_nil

theorem Uniform.ascii (h : Uniform w) : Ascii w := by
  obtain ⟨k, hkind⟩ := h
  exact hkind.ascii

theorem Uniform.alphanumeric (h : Uniform w) : ∀ c ∈ w, isAlphanumeric c = true := by
  obtain ⟨k, hkind⟩ := h
  intro c hc
  rw [isAlphanumeric_of_ascii (hkind.ascii c hc)]
  exact (hkind.ofKind c hc).1

theorem isNumber_lower_iff (h : Uniform w) : IsNumber (lower w) ↔ IsNumber w := by
  obtain ⟨k, hkind⟩ := h
  rw [hkind.isNumber_iff, (oneKind_lower hkind).isNumber_iff]

theorem isAlpha_eq_of_isChain (h : (c :: w).IsChain fun x y => y.isAlpha = x.isAlpha) :
    ∀ x ∈ w, x.isAlpha = c.isAlpha := by
  induction w generalizing c with
  | nil => exact nofun
  | cons d w ih =>
      obtain ⟨hd, hw⟩ := List.isChain_cons_cons.mp h
      exact List.forall_mem_cons.mpr ⟨hd, fun x hx => (ih hw x hx).trans hd⟩

theorem IsWord.uniform {s : List Char} (h : IsWord s w) (hs : Ascii s) : Uniform w := by
  obtain ⟨c, w, rfl⟩ := List.exists_cons_of_ne_nil h.ne_nil
  have hascii : Ascii (c :: w) := fun x hx => hs x (h.subset x hx)
  have halnum : ∀ x ∈ c :: w, x.isAlphanum = true := by
    intro x hx
    rw [← isAlphanumeric_of_ascii (hascii x hx)]
    exact h.alphanumeric x hx
  have hchain : (c :: w).IsChain fun x y => y.isAlpha = x.isAlpha := by
    refine h.oneKind.imp_of_mem_imp fun x y hx hy hxy => ?_
    exact (letterKind_eq_iff (hascii x hx) (hascii y hy) (halnum x hx) (halnum y hy)).mp hxy
  have halpha : ∀ x ∈ c :: w, x.isAlpha = c.isAlpha :=
    List.forall_mem_cons.mpr ⟨rfl, isAlpha_eq_of_isChain hchain⟩
  exact ⟨c.isAlpha, h.ne_nil, fun x hx => ⟨halnum x hx, halpha x hx⟩⟩

theorem uniform_of_mem_split {s : String} (hs : Ascii s.toList) : ∀ w ∈ split s, Uniform w :=
  fun _ hw => (isWord_of_mem_splitChars hw).uniform hs

end Words

end Scaffold
