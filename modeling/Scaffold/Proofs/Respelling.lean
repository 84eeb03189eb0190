import Scaffold.Proofs.Spellings

namespace Scaffold

/-!
# Respelling a name

A name that is spelled in one way and then in another is as if it had been
spelled in the second way at once, unless the first spelling lost a word.
This happens in two ways only: without marks numbers run together, and the
letters of a single word in capitals are taken for words.
-/

namespace Words

open Text

variable {s : String} {w : List Char} {vs ws : List (List Char)} {spelling other : Spelling}

/-! ## Numbers that run together -/

/-- A word in front of others; a number runs into a number. -/
def runInto (w : List Char) : List (List Char) → List (List Char)
  | [] => [w]
  | v :: vs => if IsNumber w ∧ IsNumber v then (w ++ v) :: vs else w :: v :: vs

/-- The words that are left without marks. -/
def fuseNumbers (ws : List (List Char)) : List (List Char) :=
  ws.foldr runInto []

theorem runInto_cases (w : List Char) (vs : List (List Char)) :
    (∃ v rest, vs = v :: rest ∧ IsNumber w ∧ IsNumber v ∧ runInto w vs = (w ++ v) :: rest) ∨
      (∀ v ∈ vs.head?, ¬(IsNumber w ∧ IsNumber v)) ∧ runInto w vs = w :: vs := by
  cases vs with
  | nil => exact .inr ⟨nofun, rfl⟩
  | cons v vs =>
      by_cases h : IsNumber w ∧ IsNumber v
      · exact .inl ⟨v, vs, rfl, h.1, h.2, if_pos h⟩
      · refine .inr ⟨?_, if_neg h⟩
        rintro _ ⟨⟩
        exact h

theorem numbersApart_runInto (h : NumbersApart vs) : NumbersApart (runInto w vs) := by
  rcases runInto_cases w vs with ⟨v, rest, rfl, -, hv, heq⟩ | ⟨hhead, heq⟩
  · obtain ⟨hnext, hrest⟩ := List.isChain_cons.mp h
    rw [heq]
    exact List.isChain_cons.mpr ⟨fun x hx hboth => hnext x hx ⟨hv, hboth.2⟩, hrest⟩
  · rw [heq]
    exact List.isChain_cons.mpr ⟨hhead, h⟩

theorem numbersApart_fuseNumbers (ws : List (List Char)) : NumbersApart (fuseNumbers ws) := by
  induction ws with
  | nil => exact .nil
  | cons w ws ih => exact numbersApart_runInto ih

theorem uniform_runInto (hw : Uniform w) (hvs : ∀ v ∈ vs, Uniform v) :
    ∀ v ∈ runInto w vs, Uniform v := by
  rcases runInto_cases w vs with ⟨v, rest, rfl, hwn, hvn, heq⟩ | ⟨-, heq⟩
  · have hboth : IsNumber (w ++ v) := List.forall_mem_append.mpr ⟨hwn, hvn⟩
    have hne : w ++ v ≠ [] := List.append_ne_nil_of_left_ne_nil hw.ne_nil v
    rw [heq]
    refine List.forall_mem_cons.mpr ⟨⟨false, oneKind_of_isNumber hne hboth⟩, ?_⟩
    exact (List.forall_mem_cons.mp hvs).2
  · rw [heq]
    exact List.forall_mem_cons.mpr ⟨hw, hvs⟩

theorem uniform_fuseNumbers (hws : ∀ w ∈ ws, Uniform w) : ∀ w ∈ fuseNumbers ws, Uniform w := by
  induction ws with
  | nil => exact nofun
  | cons w ws ih =>
      obtain ⟨hw, hrest⟩ := List.forall_mem_cons.mp hws
      exact uniform_runInto hw (ih hrest)

theorem capitalize_runInto (w : List Char) (vs : List (List Char)) :
    (runInto w vs).flatMap capitalize = capitalize w ++ vs.flatMap capitalize := by
  rcases runInto_cases w vs with ⟨v, rest, rfl, hw, hv, heq⟩ | ⟨-, heq⟩
  · have hboth : IsNumber (w ++ v) := List.forall_mem_append.mpr ⟨hw, hv⟩
    rw [heq, List.flatMap_cons, List.flatMap_cons, capitalize_number hw, capitalize_number hv,
      capitalize_number hboth, List.append_assoc]
  · rw [heq, List.flatMap_cons]

theorem capitalize_fuseNumbers (ws : List (List Char)) :
    (fuseNumbers ws).flatMap capitalize = ws.flatMap capitalize := by
  induction ws with
  | nil => rfl
  | cons w ws ih =>
      have hstep := capitalize_runInto w (fuseNumbers ws)
      rw [ih] at hstep
      exact hstep

theorem join_fuseNumbers (h : spelling.mark? = none) (ws : List (List Char)) :
    spelling.join (fuseNumbers ws) = spelling.join ws := by
  cases spelling with
  | kebab | snake | constant | title => cases h
  | pascal => exact capitalize_fuseNumbers ws
  | camel => exact congrArg lowerFirst (capitalize_fuseNumbers ws)

theorem keeps_fuseNumbers (h : spelling.mark? = none) (ws : List (List Char)) :
    spelling.Keeps (fuseNumbers ws) where
  apart _ := numbersApart_fuseNumbers ws
  whole := by
    rintro rfl
    cases h

theorem numbersApart_map_lower (hws : ∀ w ∈ ws, Uniform w) :
    NumbersApart (ws.map lower) ↔ NumbersApart ws := by
  have hnumber : ∀ w ∈ ws, IsNumber (lower w) ↔ IsNumber w :=
    fun w hw => isNumber_lower_iff (hws w hw)
  rw [NumbersApart, List.isChain_map]
  constructor
  · intro h
    refine h.imp_of_mem_imp fun v w hv hw hvw => ?_
    rwa [hnumber v hv, hnumber w hw] at hvw
  · intro h
    refine h.imp_of_mem_imp fun v w hv hw hvw => ?_
    rwa [hnumber v hv, hnumber w hw]

/-! ## Letters that are taken for words -/

theorem number_or_letter_of_isChain (hw : Uniform w)
    (hchain : (upper w).IsChain fun x y => joined true x y = true) :
    IsNumber w ∨ w.length = 1 := by
  obtain ⟨k, h⟩ := hw
  match w, h with
  | [], h => exact absurd rfl h.ne_nil
  | [c], _ => exact .inr rfl
  | c :: d :: w, h =>
      rw [upper_of_ascii h.ascii, List.map_cons, List.map_cons] at hchain
      have hc := h.ofKind c List.mem_cons_self
      have hd := h.ofKind d (List.mem_cons_of_mem _ List.mem_cons_self)
      have hjoined := (List.isChain_cons_cons.mp hchain).1
      have hupper := ((joined_iff hc.toUpper hd.toUpper).mp hjoined).2 rfl
      rw [Char.isUpper_toUpper_eq_isAlpha, hd.2] at hupper
      exact .inl (h.isNumber_iff.mpr hupper)

theorem isChain_of_length_splitChars {t : List Char} (ht : Uniform t)
    (h : (splitChars t).length = 1) : t.IsChain fun x y => joined true x y = true := by
  obtain ⟨q, hq⟩ := List.length_eq_one_iff.mp h
  rw [splitChars_of_alphanumeric ht.ne_nil ht.alphanumeric] at hq
  have hflat := List.flatten_splitBy (joined true) t
  rw [hq, List.flatten_singleton] at hflat
  apply List.isChain_of_mem_splitBy
  rw [hq, hflat]
  exact List.mem_singleton_self t

/-! ## Which spellings can be read -/

/-- The words of a spelling can be read just when it keeps them. -/
theorem map_lower_split_join_iff (hws : ∀ w ∈ ws, Uniform w) (spelling : Spelling) :
    (split (String.ofList (spelling.join ws))).map lower = ws.map lower ↔
      spelling.Keeps ws := by
  constructor
  · intro h
    constructor
    · -- the words that are read are those left when numbers ran together
      intro hmark
      have hfused := uniform_fuseNumbers hws
      rw [← join_fuseNumbers hmark, split_join hfused (keeps_fuseNumbers hmark ws),
        map_lower_written hfused] at h
      rw [← numbersApart_map_lower hws, ← h, numbersApart_map_lower hfused]
      exact numbersApart_fuseNumbers ws
    · -- one word in capitals is read as one word, so no capital stands behind its first letter
      rintro rfl w rfl
      obtain ⟨k, hkind⟩ := hws w List.mem_cons_self
      have hlength := congrArg List.length h
      rw [List.length_map, split, String.toList_ofList] at hlength
      apply number_or_letter_of_isChain ⟨k, hkind⟩
      exact isChain_of_length_splitChars ⟨k, oneKind_upper hkind⟩ hlength
  · intro h
    rw [split_join hws h, map_lower_written hws]

theorem ascii_join (hws : ∀ w ∈ ws, Uniform w) (spelling : Spelling) :
    Ascii (spelling.join ws) := by
  have hwritten := uniform_written hws spelling
  intro c hc
  cases hmark : spelling.mark? with
  | some sep =>
      rw [join_of_mark hmark] at hc
      rcases eq_sep_or_mem_of_mem_joinWith hc with rfl | ⟨p, hp, hcp⟩
      · cases spelling <;> cases hmark <;> decide
      · exact (hwritten p hp).ascii c hcp
  | none =>
      rw [join_of_no_mark hmark hws] at hc
      obtain ⟨p, hp, hcp⟩ := List.mem_flatten.mp hc
      exact (hwritten p hp).ascii c hcp

/-! ## A second spelling -/

theorem respell_respell (hs : Ascii s.toList) (hkeeps : spelling.Keeps (split s))
    (other : Spelling) : other.respell (spelling.respell s) = other.respell s :=
  respell_join (uniform_of_mem_split hs) hkeeps other

theorem respell_respell_iff {sep : Char} (hs : Ascii s.toList) (hmark : other.mark? = some sep) :
    other.respell (spelling.respell s) = other.respell s ↔ spelling.Keeps (split s) := by
  have hws := uniform_of_mem_split hs
  refine ⟨fun h => ?_, fun h => respell_respell hs h other⟩
  have hread : ∀ w ∈ split (spelling.respell s), Uniform w := by
    apply uniform_of_mem_split
    rw [Spelling.respell, String.toList_ofList]
    exact ascii_join hws spelling
  apply (map_lower_split_join_iff hws spelling).mp
  exact map_lower_eq_of_join_eq hmark hread hws (String.ofList_injective h)

theorem respell_respell_of_ne_constant (hs : Ascii s.toList) (hne : spelling ≠ .constant)
    (hmark : spelling.mark? = none → other.mark? = none) :
    other.respell (spelling.respell s) = other.respell s := by
  have hws := uniform_of_mem_split hs
  cases h : spelling.mark? with
  | some sep =>
      apply respell_respell hs
      refine ⟨fun hnone => ?_, fun hconstant => absurd hconstant hne⟩
      rw [h] at hnone
      cases hnone
  | none =>
      have hfused := respell_join (uniform_fuseNumbers hws) (keeps_fuseNumbers h (split s)) other
      rw [join_fuseNumbers h, join_fuseNumbers (hmark h)] at hfused
      exact hfused

theorem spellings_settle (hs : Ascii s.toList) :
    (∀ spelling : Spelling, spelling ≠ .constant →
        spelling.respell (spelling.respell s) = spelling.respell s) ∧
      kebab (snake s) = kebab s ∧ kebab (title s) = kebab s ∧
      pascal (camel s) = pascal s := by
  refine ⟨fun spelling hne => respell_respell_of_ne_constant hs hne id, ?_, ?_, ?_⟩
  · exact respell_respell_of_ne_constant hs (by decide) (by decide)
  · exact respell_respell_of_ne_constant hs (by decide) (by decide)
  · exact respell_respell_of_ne_constant hs (by decide) (by decide)

theorem spellings_settle_example :
    Ascii "HTTP server v2 3x".toList ∧
      pascal "HTTP server v2 3x" = "HttpServerV23X" ∧
      pascal (pascal "HTTP server v2 3x") = pascal "HTTP server v2 3x" ∧
      camel (camel "HTTP server v2 3x") = camel "HTTP server v2 3x" ∧
      kebab (title "HTTP server v2 3x") = "http-server-v-2-3-x" := by
  have hascii : Ascii "HTTP server v2 3x".toList := by decide
  obtain ⟨hsettle, -, htitle, -⟩ := spellings_settle hascii
  refine ⟨hascii, by decide +kernel, hsettle .pascal nofun, hsettle .camel nofun, ?_⟩
  rw [htitle]
  decide +kernel

/-- Kebab case survives Pascal case unless two numbers stand side by side. -/
theorem kebab_survives_pascal_iff (hs : Ascii s.toList) :
    kebab (pascal (kebab s)) = kebab s ↔ NumbersApart (split s) := by
  have hpascal : pascal (kebab s) = pascal s :=
    respell_respell_of_ne_constant hs (by decide) (by decide)
  have hkeeps : Spelling.pascal.Keeps (split s) ↔ NumbersApart (split s) :=
    ⟨fun h => h.apart rfl, fun h => ⟨fun _ => h, nofun⟩⟩
  rw [hpascal, ← hkeeps]
  exact respell_respell_iff hs rfl

theorem kebab_survives_pascal_example :
    Ascii "XY2 coordinate".toList ∧ NumbersApart (split "XY2 coordinate") ∧
      kebab (pascal (kebab "XY2 coordinate")) = kebab "XY2 coordinate" := by
  have hascii : Ascii "XY2 coordinate".toList := by decide
  have hapart : NumbersApart (split "XY2 coordinate") := by decide +kernel
  exact ⟨hascii, hapart, (kebab_survives_pascal_iff hascii).mpr hapart⟩

/-- In Pascal case the two words of `1 2` are one. -/
theorem kebab_lost_in_pascal :
    Ascii "1 2".toList ∧ kebab "1 2" = "1-2" ∧ kebab (pascal (kebab "1 2")) = "12" ∧
      kebab (pascal (kebab "1 2")) ≠ kebab "1 2" := by
  decide +kernel

theorem constant_settles_iff (hs : Ascii s.toList) :
    constant (constant s) = constant s ↔
      ∀ w, split s = [w] → IsNumber w ∨ w.length = 1 := by
  have hkeeps : Spelling.constant.Keeps (split s) ↔
      ∀ w, split s = [w] → IsNumber w ∨ w.length = 1 :=
    ⟨fun h => h.whole rfl, fun h => ⟨nofun, fun _ => h⟩⟩
  rw [← hkeeps]
  exact respell_respell_iff hs rfl

theorem constant_settles_example :
    Ascii "max size 2".toList ∧ (∀ w, split "max size 2" = [w] → IsNumber w ∨ w.length = 1) ∧
      constant (constant "max size 2") = constant "max size 2" := by
  have hascii : Ascii "max size 2".toList := by decide
  have hmany : ∀ w, split "max size 2" = [w] → IsNumber w ∨ w.length = 1 := by
    intro w hw
    have hlength : (split "max size 2").length = 3 := by decide +kernel
    rw [hw] at hlength
    cases hlength
  exact ⟨hascii, hmany, (constant_settles_iff hascii).mpr hmany⟩

/-- A single word in capitals is read as one word a letter. -/
theorem constant_need_not_settle :
    Ascii "id".toList ∧ constant "id" = "ID" ∧ constant (constant "id") = "I_D" ∧
      constant (constant "id") ≠ constant "id" := by
  decide +kernel

end Words

end Scaffold
