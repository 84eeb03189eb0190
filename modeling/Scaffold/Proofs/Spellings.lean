import Scaffold.Proofs.WordKinds

namespace Scaffold

/-!
# Spellings

Every spelling of plain words can be cut into these words again: marks
stand between them, or capitals and changes between letters and digits do.
Two conditions are needed. Without marks two numbers in a row run together,
and a word that stands alone in capitals falls apart into its letters.
-/

namespace Words

open Text

variable {b j k : Bool} {v w : List Char} {vs ws : List (List Char)}
  {spelling : Spelling}

/-- No two numbers stand side by side. -/
def NumbersApart (ws : List (List Char)) : Prop :=
  ws.IsChain fun v w => ¬(IsNumber v ∧ IsNumber w)

instance : DecidablePred NumbersApart :=
  fun ws => inferInstanceAs (Decidable (ws.IsChain _))

/-! ## How a spelling writes its words -/

namespace Spelling

/-- The mark between two words. -/
def mark? : Spelling → Option Char
  | kebab => some '-'
  | snake | constant => some '_'
  | title => some ' '
  | pascal | camel => none

def write : Spelling → List Char → List Char
  | kebab | snake => lower
  | constant => upper
  | pascal | camel | title => capitalize

/-- The spelling in which the first word is written. -/
def opening : Spelling → Spelling
  | camel => kebab
  | spelling => spelling

def written (spelling : Spelling) : List (List Char) → List (List Char)
  | [] => []
  | w :: ws => spelling.opening.write w :: ws.map spelling.write

/-- What a spelling needs for its words to be told apart. -/
structure Keeps (spelling : Spelling) (ws : List (List Char)) : Prop where
  apart : spelling.mark? = none → NumbersApart ws
  whole : spelling = .constant → ∀ w, ws = [w] → IsNumber w ∨ w.length = 1

end Spelling

theorem oneKind_write (h : OneKind k w) (spelling : Spelling) :
    OneKind k (spelling.write w) := by
  cases spelling with
  | kebab | snake => exact oneKind_lower h
  | constant => exact oneKind_upper h
  | pascal | camel | title => exact oneKind_capitalize h

theorem lower_write (h : Ascii w) (spelling : Spelling) :
    lower (spelling.write w) = lower w := by
  cases spelling with
  | kebab | snake => exact lower_lower h
  | constant => exact lower_upper h
  | pascal | camel | title => exact lower_capitalize h

theorem write_lower (h : Ascii w) (spelling : Spelling) :
    spelling.write (lower w) = spelling.write w := by
  cases spelling with
  | kebab | snake => exact lower_lower h
  | constant => exact upper_lower h
  | pascal | camel | title => exact capitalize_lower h

theorem written_of_mark {sep : Char} (h : spelling.mark? = some sep) (ws : List (List Char)) :
    spelling.written ws = ws.map spelling.write := by
  cases ws with
  | nil => rfl
  | cons w ws => cases spelling <;> first | rfl | cases h

theorem length_written (spelling : Spelling) (ws : List (List Char)) :
    (spelling.written ws).length = ws.length := by
  cases ws <;> simp [Spelling.written]

theorem exists_of_mem_written {p : List Char} (h : p ∈ spelling.written ws) :
    ∃ w ∈ ws, ∃ other : Spelling, p = other.write w ∧
      (other = .constant → spelling = .constant) := by
  cases ws with
  | nil => cases h
  | cons w ws =>
      rcases List.mem_cons.mp h with rfl | h
      · refine ⟨w, List.mem_cons_self, spelling.opening, rfl, ?_⟩
        cases spelling <;> simp [Spelling.opening]
      · obtain ⟨v, hv, rfl⟩ := List.mem_map.mp h
        exact ⟨v, List.mem_cons_of_mem _ hv, spelling, rfl, id⟩

theorem uniform_written (hws : ∀ w ∈ ws, Uniform w) (spelling : Spelling) :
    ∀ p ∈ spelling.written ws, Uniform p := by
  intro p hp
  obtain ⟨w, hw, other, rfl, -⟩ := exists_of_mem_written hp
  obtain ⟨k, hkind⟩ := hws w hw
  exact ⟨k, oneKind_write hkind other⟩

theorem map_lower_written (hws : ∀ w ∈ ws, Uniform w) (spelling : Spelling) :
    (spelling.written ws).map lower = ws.map lower := by
  cases ws with
  | nil => rfl
  | cons w ws =>
      obtain ⟨hw, hrest⟩ := List.forall_mem_cons.mp hws
      have hmap : (ws.map spelling.write).map lower = ws.map lower := by
        rw [List.map_map]
        exact List.map_congr_left fun v hv => lower_write (hrest v hv).ascii spelling
      rw [Spelling.written, List.map_cons, List.map_cons, lower_write hw.ascii, hmap]

/-! ## Joining -/

theorem join_of_mark {sep : Char} (h : spelling.mark? = some sep) (ws : List (List Char)) :
    spelling.join ws = joinWith [sep] (spelling.written ws) := by
  rw [written_of_mark h]
  cases spelling <;> cases h <;> rfl

theorem lowerFirst_capitalize_append (h : OneKind k w) (s : List Char) :
    lowerFirst (capitalize w ++ s) = lower w ++ s := by
  obtain ⟨c, w, rfl⟩ := List.exists_cons_of_ne_nil h.ne_nil
  have hc : c.val < 128 := h.ascii c List.mem_cons_self
  rw [capitalize_of_ascii h.ascii, List.cons_append, lowerFirst,
    lowerChar_of_ascii (ascii_toUpper c hc), Char.toLower_toUpper_eq_toLower,
    lower_of_ascii h.ascii]
  rfl

theorem join_of_no_mark (h : spelling.mark? = none) (hws : ∀ w ∈ ws, Uniform w) :
    spelling.join ws = (spelling.written ws).flatten := by
  cases ws with
  | nil => cases spelling <;> rfl
  | cons w ws =>
      obtain ⟨k, hw⟩ := hws w List.mem_cons_self
      cases spelling with
      | kebab | snake | constant | title => cases h
      | pascal =>
          rw [Spelling.join, List.flatMap_cons, List.flatMap_def]
          rfl
      | camel =>
          rw [Spelling.join, List.flatMap_cons, lowerFirst_capitalize_append hw, List.flatMap_def]
          rfl

/-- Joining overrides the case that the words have. -/
theorem join_map_lower (hws : ∀ w ∈ ws, Uniform w) (spelling : Spelling) :
    spelling.join (ws.map lower) = spelling.join ws := by
  have hwrite : (ws.map lower).map spelling.write = ws.map spelling.write := by
    rw [List.map_map]
    exact List.map_congr_left fun w hw => write_lower (hws w hw).ascii spelling
  cases spelling with
  | kebab | snake | constant | title => exact congrArg (joinWith _) hwrite
  | pascal => exact congrArg List.flatten hwrite
  | camel => exact congrArg (fun ps => lowerFirst ps.flatten) hwrite

theorem join_congr (hvs : ∀ v ∈ vs, Uniform v) (hws : ∀ w ∈ ws, Uniform w)
    (h : vs.map lower = ws.map lower) (spelling : Spelling) :
    spelling.join vs = spelling.join ws := by
  rw [← join_map_lower hvs, h, join_map_lower hws]

/-! ## Marks -/

theorem tokens_join {sep : Char} (h : spelling.mark? = some sep) (hws : ∀ w ∈ ws, Uniform w) :
    tokens (spelling.join ws) = spelling.written ws := by
  have hsep : isAlphanumeric sep = false := by
    cases spelling <;> cases h <;> decide
  rw [join_of_mark h]
  refine runs_joinWith (by simp [hsep]) fun p hp => ?_
  have hp := uniform_written hws spelling p hp
  exact ⟨hp.ne_nil, fun c hc => by simp [hp.alphanumeric c hc]⟩

/-- A spelling with marks loses nothing but the case of the words. -/
theorem map_lower_eq_of_join_eq {sep : Char} (h : spelling.mark? = some sep)
    (hvs : ∀ v ∈ vs, Uniform v) (hws : ∀ w ∈ ws, Uniform w)
    (hjoin : spelling.join vs = spelling.join ws) : vs.map lower = ws.map lower := by
  rw [← map_lower_written hvs spelling, ← tokens_join h hvs, hjoin, tokens_join h hws,
    map_lower_written hws]

theorem splitChars_of_whole {s : List Char}
    (hwhole : ∀ p ∈ tokens s, p ≠ [] ∧ p.IsChain fun x y =>
      joined (!(1 < (tokens s).length && !p.any isLower)) x y = true) :
    splitChars s = tokens s := by
  have hone : ∀ p ∈ tokens s, ofToken (!(1 < (tokens s).length && !p.any isLower)) p = [p] :=
    fun p hp => List.splitBy_of_isChain (hwhole p hp).1 (hwhole p hp).2
  exact (List.flatMap_congr hone).trans (List.flatMap_singleton' _)

/-! ## Words without marks -/

theorem splitChars_flatten {ps : List (List Char)} (hps : ∀ p ∈ ps, Uniform p)
    (hwhole : ∀ p ∈ ps, p.IsChain fun x y => joined true x y = true)
    (hbreak : ps.IsChain fun p q => ∃ hp hq, joined true (p.getLast hp) (q.head hq) = false) :
    splitChars ps.flatten = ps := by
  cases ps with
  | nil => rfl
  | cons p ps =>
      have hne : [] ∉ p :: ps := fun hmem => (hps [] hmem).ne_nil rfl
      have hsome : (p :: ps).flatten ≠ [] :=
        List.append_ne_nil_of_left_ne_nil (hps p List.mem_cons_self).ne_nil _
      have halnum : ∀ c ∈ (p :: ps).flatten, isAlphanumeric c = true := by
        intro c hc
        obtain ⟨q, hq, hcq⟩ := List.mem_flatten.mp hc
        exact (hps q hq).alphanumeric c hcq
      rw [splitChars_of_alphanumeric hsome halnum, List.splitBy_flatten hne hwhole hbreak]

/-- Between two capitalised words stands a capital or a change of kind. -/
theorem joined_capitalize (hv : OneKind j v) (hw : OneKind k w)
    (hapart : ¬(j = false ∧ k = false)) (hne : capitalize w ≠ []) :
    joined true (v.getLast hv.ne_nil) ((capitalize w).head hne) = false := by
  rw [← Bool.not_eq_true]
  intro hjoined
  have hlast := hv.ofKind _ (List.getLast_mem hv.ne_nil)
  have hhead := (oneKind_capitalize hw).ofKind _ (List.head_mem hne)
  obtain ⟨rfl, hupper⟩ := (joined_iff hlast hhead).mp hjoined
  have hletters : k = true := by simpa using hapart
  obtain ⟨c, w, rfl⟩ := List.exists_cons_of_ne_nil hw.ne_nil
  have hc := hw.ofKind c List.mem_cons_self
  have hup : c.toUpper.isUpper = false := by
    simpa only [capitalize_of_ascii hw.ascii, List.head_cons] using hupper rfl
  rw [Char.isUpper_toUpper_eq_isAlpha, hc.2, hletters] at hup
  cases hup

theorem breaks_capitalized {p : List Char} (hp : OneKind k p) (hw : OneKind k w)
    (hws : ∀ v ∈ ws, Uniform v) (hapart : NumbersApart (w :: ws)) :
    (p :: ws.map capitalize).IsChain fun p q =>
      ∃ hp hq, joined true (p.getLast hp) (q.head hq) = false := by
  induction ws generalizing p w k with
  | nil => exact List.isChain_singleton _
  | cons v ws ih =>
      obtain ⟨⟨j, hv⟩, hrest⟩ := List.forall_mem_cons.mp hws
      obtain ⟨hwv, htail⟩ := List.isChain_cons_cons.mp hapart
      rw [hw.isNumber_iff, hv.isNumber_iff] at hwv
      have hcap := oneKind_capitalize hv
      refine List.isChain_cons_cons.mpr ⟨?_, ih hcap hv hrest htail⟩
      exact ⟨hp.ne_nil, hcap.ne_nil, joined_capitalize hp hv hwv hcap.ne_nil⟩

theorem breaks_written (h : spelling.mark? = none) (hws : ∀ w ∈ ws, Uniform w)
    (hapart : NumbersApart ws) :
    (spelling.written ws).IsChain fun p q =>
      ∃ hp hq, joined true (p.getLast hp) (q.head hq) = false := by
  cases ws with
  | nil => exact .nil
  | cons w ws =>
      obtain ⟨⟨k, hw⟩, hrest⟩ := List.forall_mem_cons.mp hws
      have hwrite : spelling.write = capitalize := by
        cases spelling <;> first | rfl | cases h
      rw [Spelling.written, hwrite]
      exact breaks_capitalized (oneKind_write hw _) hw hrest hapart

/-! ## Capitals inside a word -/

theorem not_isUpper_tail_write (h : OneKind k w) (hcaps : spelling = .constant → k = false) :
    ∀ d ∈ (spelling.write w).tail, d.isUpper = false := by
  have hlowered (v : List Char) : ∀ d ∈ v.map Char.toLower, d.isUpper = false :=
    List.forall_mem_map.mpr fun d _ => d.isUpper_toLower_eq_false
  intro d hd
  cases spelling with
  | kebab | snake =>
      rw [Spelling.write, lower_of_ascii h.ascii] at hd
      exact hlowered w d (List.mem_of_mem_tail hd)
  | constant =>
      obtain rfl : k = false := hcaps rfl
      exact eq_false_of_ne_true ((oneKind_upper h).caseless d (List.mem_of_mem_tail hd)).1
  | pascal | camel | title =>
      obtain ⟨c, w, rfl⟩ := List.exists_cons_of_ne_nil h.ne_nil
      rw [Spelling.write, capitalize_of_ascii h.ascii, List.tail_cons] at hd
      exact hlowered w d hd

theorem any_isLower_upper (h : Ascii w) : (upper w).any isLower = false := by
  rw [upper_of_ascii h, List.any_eq_false]
  refine List.forall_mem_map.mpr fun c hc => ?_
  rw [isLower_of_ascii (ascii_toUpper c (h c hc)), Char.isLower_toUpper_eq_false]
  exact Bool.false_ne_true

/-- A written word is cut nowhere. In constant case this is due to the other words, beside which
capitals begin no words. -/
theorem isChain_written (hws : ∀ w ∈ ws, Uniform w) (hkeeps : spelling.Keeps ws) {p : List Char}
    (hp : p ∈ spelling.written ws)
    (hbreak : spelling = .constant → b = !(1 < ws.length && !p.any isLower)) :
    p.IsChain fun x y => joined b x y = true := by
  obtain ⟨w, hw, other, rfl, hother⟩ := exists_of_mem_written hp
  obtain ⟨k, hkind⟩ := hws w hw
  refine (oneKind_write hkind other).isChain_joined fun hb => ?_
  by_cases hconstant : other = .constant
  · -- capitals only begin words when nothing stands beside them
    subst hconstant
    have hconstant := hother rfl
    have hone : ws = [w] := by
      rw [hbreak hconstant, Spelling.write, any_isLower_upper hkind.ascii] at hb
      have hlength : ws.length = 1 := by
        have hpos : 0 < ws.length := List.length_pos_of_mem hw
        simp only [Bool.not_false, Bool.and_true, Bool.not_eq_true', decide_eq_false_iff_not] at hb
        omega
      obtain ⟨v, rfl⟩ := List.length_eq_one_iff.mp hlength
      rw [List.mem_singleton.mp hw]
    rcases hkeeps.whole hconstant w hone with hnumber | hlength
    · exact not_isUpper_tail_write hkind fun _ => hkind.isNumber_iff.mp hnumber
    · obtain ⟨c, rfl⟩ := List.length_eq_one_iff.mp hlength
      rw [Spelling.write, upper_of_ascii hkind.ascii]
      exact nofun
  · exact not_isUpper_tail_write hkind fun h => absurd h hconstant

/-! ## Cutting undoes joining -/

theorem split_join (hws : ∀ w ∈ ws, Uniform w) (hkeeps : spelling.Keeps ws) :
    split (String.ofList (spelling.join ws)) = spelling.written ws := by
  have hwritten := uniform_written hws spelling
  rw [split, String.toList_ofList]
  cases hmark : spelling.mark? with
  | some sep =>
      have htokens := tokens_join hmark hws
      rw [← htokens]
      apply splitChars_of_whole
      rw [htokens, length_written]
      intro p hp
      exact ⟨(hwritten p hp).ne_nil, isChain_written hws hkeeps hp fun _ => rfl⟩
  | none =>
      have hconstant : spelling ≠ .constant := by
        rintro rfl
        cases hmark
      rw [join_of_no_mark hmark hws]
      apply splitChars_flatten hwritten
      · exact fun p hp => isChain_written hws hkeeps hp fun h => absurd h hconstant
      · exact breaks_written hmark hws (hkeeps.apart hmark)

theorem respell_join (hws : ∀ w ∈ ws, Uniform w) (hkeeps : spelling.Keeps ws)
    (other : Spelling) :
    other.respell (String.ofList (spelling.join ws)) = String.ofList (other.join ws) := by
  have hwritten := uniform_written hws spelling
  rw [Spelling.respell, split_join hws hkeeps,
    join_congr hwritten hws (map_lower_written hws spelling)]

/-! ## Plain words -/

/-- A word of lowercase letters, or a number. -/
structure Plain (w : List Char) : Prop where
  ne_nil : w ≠ []
  letters_or_number : (∀ c ∈ w, c.isLower = true) ∨ IsNumber w

instance : DecidablePred Plain := fun w =>
  haveI : Decidable (∀ c ∈ w, c.isLower = true) := List.decidableBAll _ w
  decidable_of_iff (w ≠ [] ∧ ((∀ c ∈ w, c.isLower = true) ∨ IsNumber w))
    ⟨fun h => ⟨h.1, h.2⟩, fun h => ⟨h.1, h.2⟩⟩

theorem oneKind_of_isLower (hne : w ≠ []) (h : ∀ c ∈ w, c.isLower = true) : OneKind true w := by
  refine ⟨hne, fun c hc => ?_⟩
  have halpha := isAlpha_of_isLower (h c hc)
  exact ⟨by rw [Char.isAlphanum, halpha, Bool.true_or], halpha⟩

theorem Plain.uniform (h : Plain w) : Uniform w := by
  rcases h.letters_or_number with hw | hw
  · exact ⟨true, oneKind_of_isLower h.ne_nil hw⟩
  · exact ⟨false, oneKind_of_isNumber h.ne_nil hw⟩

theorem Plain.lower_eq (h : Plain w) : lower w = w := by
  have hupper : ∀ c ∈ w, ¬c.isUpper = true := by
    intro c hc
    rcases h.letters_or_number with hw | hw
    · exact Char.not_isUpper_of_isLower (hw c hc)
    · exact ((oneKind_of_isNumber h.ne_nil hw).caseless c hc).1
  have hmap : w.map Char.toLower = w.map id :=
    List.map_congr_left fun c hc => Char.toLower_eq_of_not_isUpper (hupper c hc)
  rw [lower_of_ascii h.uniform.ascii, hmap, List.map_id]

/-- Cutting undoes joining, so a spelling can be turned into every other one. -/
theorem split_undoes_join (hplain : ∀ w ∈ ws, Plain w) (hapart : NumbersApart ws)
    (hmany : spelling = .constant → 2 ≤ ws.length) :
    (split (String.ofList (spelling.join ws))).map lower = ws ∧
      ∀ other : Spelling,
        other.respell (String.ofList (spelling.join ws)) = String.ofList (other.join ws) := by
  have hws : ∀ w ∈ ws, Uniform w := fun w hw => (hplain w hw).uniform
  have hkeeps : spelling.Keeps ws := by
    refine ⟨fun _ => hapart, ?_⟩
    rintro hconstant w rfl
    exact absurd (hmany hconstant) (by simp)
  have hlower : ws.map lower = ws.map id :=
    List.map_congr_left fun w hw => (hplain w hw).lower_eq
  constructor
  · rw [split_join hws hkeeps, map_lower_written hws, hlower, List.map_id]
  · exact respell_join hws hkeeps

def endpointWords : List (List Char) :=
  ["v".toList, "2".toList, "x".toList, "api".toList]

theorem split_undoes_join_example :
    (∀ w ∈ endpointWords, Plain w) ∧ NumbersApart endpointWords ∧
      String.ofList (Spelling.camel.join endpointWords) = "v2XApi" ∧
      String.ofList (Spelling.constant.join endpointWords) = "V_2_X_API" ∧
      ∀ spelling : Spelling,
        (split (String.ofList (spelling.join endpointWords))).map lower = endpointWords ∧
          ∀ other : Spelling, other.respell (String.ofList (spelling.join endpointWords)) =
            String.ofList (other.join endpointWords) := by
  have hplain : ∀ w ∈ endpointWords, Plain w := by decide
  have hapart : NumbersApart endpointWords := by decide
  refine ⟨hplain, hapart, by decide +kernel, by decide +kernel, fun spelling => ?_⟩
  exact split_undoes_join hplain hapart fun _ => by decide

end Words

end Scaffold
