import Scaffold.Proofs.WordKinds
import Scaffold.Schema.Model

namespace Scaffold

/-!
# Names with humps

In Pascal and in camel case every word begins a hump: a lowercase letter
only follows a letter. Such a name is one token, cutting it into words
finds its humps again, and respelling it changes no more than its first
letter. So the name of a foreign key is its own camel case.
-/

namespace Text

theorem splitBy_cons_of_joined {α : Type} {r : α → α → Bool} {c d : α} {s w : List α}
    {ws : List (List α)} (hcd : r c d = true) (h : (d :: s).splitBy r = w :: ws) :
    (c :: d :: s).splitBy r = (c :: w) :: ws := by
  obtain ⟨hflat, hne, hchain, hbreak⟩ := List.splitBy_eq_iff.mp h
  have hw : w ≠ [] := fun hnil => hne (hnil ▸ List.mem_cons_self)
  obtain ⟨d', w', rfl⟩ := List.exists_cons_of_ne_nil hw
  obtain rfl : d = d' := by simpa using congrArg List.head? hflat
  obtain ⟨hfirst, hrest⟩ := List.forall_mem_cons.mp hchain
  refine List.splitBy_eq_iff.mpr ⟨by rw [hflat]; rfl, by simpa using hne, ?_, ?_⟩
  · exact List.forall_mem_cons.mpr ⟨List.isChain_cons_cons.mpr ⟨hcd, hfirst⟩, hrest⟩
  · cases ws with
    | nil => exact List.isChain_singleton _
    | cons v ws =>
        obtain ⟨⟨ha, hb, hv⟩, htail⟩ := List.isChain_cons_cons.mp hbreak
        refine List.isChain_cons_cons.mpr ⟨⟨List.cons_ne_nil _ _, hb, ?_⟩, htail⟩
        rwa [List.getLast_cons (List.cons_ne_nil _ _)]

theorem splitBy_singleton {α : Type} (r : α → α → Bool) (c : α) : [c].splitBy r = [[c]] :=
  List.splitBy_of_isChain (List.cons_ne_nil _ _) (List.isChain_singleton _)

theorem splitBy_cons_of_not_joined {α : Type} {r : α → α → Bool} {c d : α} (s : List α)
    (hcd : r c d = false) : (c :: d :: s).splitBy r = [c] :: (d :: s).splitBy r := by
  have hcut := List.splitBy_append_cons (r := r) (l := [c]) (a := d) s (by simpa using hcd)
  rw [splitBy_singleton] at hcut
  exact hcut

theorem exists_splitBy_cons {α : Type} (r : α → α → Bool) (c : α) (s : List α) :
    ∃ w ws, (c :: s).splitBy r = (c :: w) :: ws ∧ s = w ++ ws.flatten := by
  obtain ⟨v, ws, hws⟩ := List.exists_cons_of_ne_nil
    (List.splitBy_ne_nil (r := r).mpr (List.cons_ne_nil c s))
  obtain ⟨c', w, rfl⟩ : ∃ c' w, v = c' :: w :=
    List.exists_cons_of_ne_nil (List.ne_nil_of_mem_splitBy (hws ▸ List.mem_cons_self))
  have hflat := List.flatten_splitBy r (c :: s)
  rw [hws, List.flatten_cons, List.cons_append, List.cons.injEq] at hflat
  obtain ⟨rfl, hflat⟩ := hflat
  exact ⟨w, ws, hws, hflat.symm⟩

end Text

namespace Words

open Text

/-! ## Humps -/

/-- ASCII letters and digits, a lowercase letter only behind a letter. -/
structure Humped (s : List Char) : Prop where
  ascii : Ascii s
  alphanum : ∀ c ∈ s, c.isAlphanum = true
  humps : s.IsChain fun c d => d.isLower = true → c.isAlpha = true

variable {s : List Char} {c d : Char}

theorem Humped.tail (h : Humped (c :: s)) : Humped s where
  ascii := (List.forall_mem_cons.mp h.ascii).2
  alphanum := (List.forall_mem_cons.mp h.alphanum).2
  humps := h.humps.tail

theorem capitalize_words_of_joined (h : Ascii (c :: d :: s)) (hjoined : joined true c d = true)
    (hrest : ((d :: s).splitBy (joined true)).flatMap capitalize = d.toUpper :: s) :
    ((c :: d :: s).splitBy (joined true)).flatMap capitalize = c.toUpper :: d :: s := by
  obtain ⟨hc, hds⟩ := List.forall_mem_cons.mp h
  obtain ⟨hd, hs⟩ := List.forall_mem_cons.mp hds
  have hupper : ¬d.isUpper = true := by
    intro hup
    rw [joined, isUpper_of_ascii hd, hup] at hjoined
    cases hjoined
  obtain ⟨w, ws, hws, rfl⟩ := exists_splitBy_cons (joined true) d s
  have hword : Ascii (d :: w) :=
    List.forall_mem_cons.mpr ⟨hd, fun x hx => hs x (List.mem_append_left _ hx)⟩
  have hlong : Ascii (c :: d :: w) := List.forall_mem_cons.mpr ⟨hc, hword⟩
  rw [hws, List.flatMap_cons, capitalize_of_ascii hword, List.cons_append,
    List.cons.injEq] at hrest
  rw [splitBy_cons_of_joined hjoined hws, List.flatMap_cons, capitalize_of_ascii hlong,
    List.map_cons, Char.toLower_eq_of_not_isUpper hupper, List.cons_append, List.cons_append,
    hrest.2]

theorem capitalize_words_of_not_joined (hc : c.val < 128) (hlower : ¬d.isLower = true)
    (hjoined : joined true c d = false)
    (hrest : ((d :: s).splitBy (joined true)).flatMap capitalize = d.toUpper :: s) :
    ((c :: d :: s).splitBy (joined true)).flatMap capitalize = c.toUpper :: d :: s := by
  have hone : Ascii [c] := List.forall_mem_singleton.mpr hc
  rw [splitBy_cons_of_not_joined s hjoined, List.flatMap_cons, capitalize_of_ascii hone, hrest,
    Char.toUpper_eq_of_not_isLower hlower]
  rfl

/-- Capitalising each hump changes no more than the first letter. -/
theorem Humped.flatMap_capitalize (h : Humped (c :: s)) :
    ((c :: s).splitBy (joined true)).flatMap capitalize = c.toUpper :: s := by
  induction s generalizing c with
  | nil =>
      rw [splitBy_singleton, List.flatMap_cons, capitalize_of_ascii h.ascii]
      rfl
  | cons d s ih =>
      have hrest := ih h.tail
      have hc : c.val < 128 := h.ascii c List.mem_cons_self
      by_cases hjoined : joined true c d = true
      · exact capitalize_words_of_joined h.ascii hjoined hrest
      · -- the second letter begins a word, so it is a capital or a digit already
        have hlower : ¬d.isLower = true := by
          intro hlow
          apply hjoined
          obtain ⟨halc, hals⟩ := List.forall_mem_cons.mp h.alphanum
          have hkinds := (List.isChain_cons_cons.mp h.humps).1 hlow
          apply (joined_iff ⟨halc, hkinds⟩ ⟨hals d List.mem_cons_self, isAlpha_of_isLower hlow⟩).mpr
          exact ⟨rfl, fun _ => eq_false_of_ne_true (Char.not_isUpper_of_isLower hlow)⟩
        exact capitalize_words_of_not_joined hc hlower (eq_false_of_ne_true hjoined) hrest

theorem Humped.append {t : List Char} (hs : Humped s) (ht : Humped t)
    (hhead : ∀ d ∈ t.head?, d.isLower = false) : Humped (s ++ t) where
  ascii := hs.ascii.append ht.ascii
  alphanum := List.forall_mem_append.mpr ⟨hs.alphanum, ht.alphanum⟩
  humps := by
    refine List.isChain_append.mpr ⟨hs.humps, ht.humps, fun c _ d hd hlower => ?_⟩
    rw [hhead d hd] at hlower
    cases hlower

/-- A capitalised word is one hump. -/
theorem IsWord.humped {word : List Char} (h : IsWord s word) (hs : Ascii s) :
    Humped (capitalize word) ∧ ∀ d ∈ (capitalize word).head?, d.isLower = false := by
  obtain ⟨k, hkind⟩ := h.uniform hs
  have hcap := oneKind_capitalize hkind
  refine ⟨⟨hcap.ascii, fun x hx => (hcap.ofKind x hx).1, ?_⟩, ?_⟩
  · -- the letters of a word have only letters beside them
    apply List.Pairwise.isChain
    refine List.pairwise_of_forall_mem_list fun x hx y hy hlower => ?_
    rw [(hcap.ofKind x hx).2, ← (hcap.ofKind y hy).2]
    exact isAlpha_of_isLower hlower
  · obtain ⟨c, rest, rfl⟩ := List.exists_cons_of_ne_nil h.ne_nil
    rw [capitalize_of_ascii hkind.ascii]
    rintro _ ⟨⟩
    exact c.isLower_toUpper_eq_false

theorem humped_flatMap_capitalize (hs : Ascii s) {words : List (List Char)}
    (h : ∀ word ∈ words, IsWord s word) :
    Humped (words.flatMap capitalize) ∧
      ∀ d ∈ (words.flatMap capitalize).head?, d.isLower = false := by
  induction words with
  | nil => exact ⟨⟨by simp [Ascii], by simp, .nil⟩, by simp⟩
  | cons word words ih =>
      obtain ⟨hword, hwords⟩ := List.forall_mem_cons.mp h
      obtain ⟨hhumped, hhead⟩ := hword.humped hs
      obtain ⟨hrest, hnext⟩ := ih hwords
      rw [List.flatMap_cons]
      refine ⟨hhumped.append hrest hnext, fun d hd => ?_⟩
      rw [List.head?_append] at hd
      cases hfirst : (capitalize word).head? with
      | none =>
          rw [hfirst, Option.none_or] at hd
          exact hnext d hd
      | some c =>
          rw [hfirst, Option.some_or] at hd
          exact hhead d (hfirst ▸ hd)

/-- A name in Pascal case that has a word: its first letter and the rest. -/
theorem exists_pascal {name : String} (hascii : Ascii name.toList) (hword : hasWord name = true) :
    ∃ c rest, pascal name = String.ofList (c :: rest) ∧ Humped (c :: rest) := by
  have hwords : ∀ word ∈ split name, IsWord name.toList word := fun word hw =>
    isWord_of_mem_splitChars hw
  obtain ⟨hhumped, -⟩ := humped_flatMap_capitalize hascii hwords
  obtain ⟨word, words, hsplit⟩ : ∃ word words, split name = word :: words := by
    refine List.exists_cons_of_ne_nil fun hnil => ?_
    rw [hasWord, hnil] at hword
    cases hword
  rw [hsplit] at hhumped hwords
  obtain ⟨c, rest, rfl⟩ := List.exists_cons_of_ne_nil (hwords word List.mem_cons_self).ne_nil
  have hfirst : Ascii (c :: rest) := fun x hx =>
    hascii x ((hwords _ List.mem_cons_self).subset x hx)
  rw [List.flatMap_cons, capitalize_of_ascii hfirst, List.cons_append] at hhumped
  refine ⟨_, _, ?_, hhumped⟩
  rw [pascal, Spelling.respell, Spelling.join, hsplit, List.flatMap_cons,
    capitalize_of_ascii hfirst, List.cons_append]

/-- Camel case changes no more than the first letter of a name with humps. -/
theorem Humped.camel (h : Humped (c :: s)) :
    Words.camel (String.ofList (c :: s)) = String.ofList (c.toLower :: s) := by
  have halnum : ∀ x ∈ c :: s, isAlphanumeric x = true := by
    intro x hx
    rw [isAlphanumeric_of_ascii (h.ascii x hx)]
    exact h.alphanum x hx
  have hc : c.val < 128 := h.ascii c List.mem_cons_self
  rw [Words.camel, Spelling.respell, Spelling.join, split, String.toList_ofList,
    splitChars_of_alphanumeric (List.cons_ne_nil _ _) halnum, h.flatMap_capitalize, lowerFirst,
    lowerChar_of_ascii (ascii_toUpper c hc), Char.toLower_toUpper_eq_toLower]
  rfl

theorem Humped.lowerFirst (h : Humped (c :: s)) : Humped (c.toLower :: s) := by
  obtain ⟨hc, hs⟩ := List.forall_mem_cons.mp h.ascii
  obtain ⟨halc, hals⟩ := List.forall_mem_cons.mp h.alphanum
  refine ⟨List.forall_mem_cons.mpr ⟨ascii_toLower c hc, hs⟩,
    List.forall_mem_cons.mpr ⟨(isAlphanum_toLower c hc).trans halc, hals⟩, ?_⟩
  cases s with
  | nil => exact List.isChain_singleton _
  | cons d s =>
      obtain ⟨hcd, hds⟩ := List.isChain_cons_cons.mp h.humps
      rw [← Char.isAlpha_toLower_eq_isAlpha] at hcd
      exact List.isChain_cons_cons.mpr ⟨hcd, hds⟩

/-- The name of the foreign key for a model is in camel case. -/
theorem camel_keyOf_pascal {name : String} (hascii : Ascii name.toList)
    (hword : hasWord name = true) :
    camel (Model.keyOf (pascal name)) = Model.keyOf (pascal name) := by
  obtain ⟨c, rest, hpascal, hhumped⟩ := exists_pascal hascii hword
  have hid : Humped ['I', 'd'] := by
    refine ⟨by decide, List.all_eq_true.mp rfl, ?_⟩
    exact List.isChain_cons_cons.mpr ⟨by decide, List.isChain_singleton _⟩
  have hkey : Humped (c.toLower :: (rest ++ ['I', 'd'])) :=
    hhumped.lowerFirst.append hid (by rintro _ ⟨⟩; rfl)
  have hspelled :
      Model.keyOf (pascal name) = String.ofList (c.toLower :: (rest ++ ['I', 'd'])) := by
    rw [hpascal, Model.keyOf, hhumped.camel, ← String.toList_inj]
    simp
  rw [hspelled, hkey.camel, Char.toLower_toLower_eq_toLower]

end Words

end Scaffold
