import Scaffold.Proofs.WordKinds

namespace Scaffold

/-!
# The rules for words

The words of a text are given by rules that say nothing of how it is cut.
The words of a token make it up, each is of one kind, a capital stands
inside a word only in a token of capitals that is not alone, and no two
neighbours in a token could be one word. Only one list of words obeys the
rules, and cutting finds it.
-/

namespace Text

/-! ## Runs between separators -/

variable {separates : Char → Bool} {s : List Char} {rs : List (List Char)}

/-- The runs are what separators leave of the text, none of them empty or next to another. -/
inductive Delimited (separates : Char → Bool) : List Char → List (List Char) → Prop
  | gap {s : List Char} (hgap : ∀ c ∈ s, separates c = true) : Delimited separates s []
  | run {gap run rest : List Char} {rs : List (List Char)} (hgap : ∀ c ∈ gap, separates c = true)
      (hne : run ≠ []) (hrun : ∀ c ∈ run, separates c = false)
      (hend : ∀ c ∈ rest.head?, separates c = true) (hrest : Delimited separates rest rs) :
      Delimited separates (gap ++ (run ++ rest)) (run :: rs)

theorem Delimited.cons_separator {c : Char} (hc : separates c = true)
    (h : Delimited separates s rs) : Delimited separates (c :: s) rs := by
  cases h with
  | gap hgap => exact .gap (List.forall_mem_cons.mpr ⟨hc, hgap⟩)
  | run hgap hne hrun hend hrest =>
      exact .run (List.forall_mem_cons.mpr ⟨hc, hgap⟩) hne hrun hend hrest

theorem Delimited.start {run rest : List Char} (hne : run ≠ [])
    (hrun : ∀ c ∈ run, separates c = false) (hend : ∀ c ∈ rest.head?, separates c = true)
    (hrest : Delimited separates rest rs) : Delimited separates (run ++ rest) (run :: rs) :=
  @Delimited.run separates [] run rest rs (List.forall_mem_nil _) hne hrun hend hrest

/-- A run that has begun goes on up to the next separator. -/
theorem delimited_runsFrom {current : List Char} (hcurrent : ∀ c ∈ current, separates c = false)
    (s : List Char) :
    Delimited separates (current.reverse ++ s) (runsFrom separates current s) := by
  have hrun : ∀ c ∈ current.reverse, separates c = false := fun c hc =>
    hcurrent c (List.mem_reverse.mp hc)
  induction s generalizing current with
  | nil =>
      rw [runsFrom]
      split
      · next hempty => exact .gap (by simp [List.isEmpty_iff.mp hempty])
      · next hne =>
          exact .start (by simpa using hne) hrun (by simp) (.gap (List.forall_mem_nil _))
  | cons c s ih =>
      rw [runsFrom]
      split
      · next hc =>
          have hrest : Delimited separates (c :: s) (runsFrom separates [] s) :=
            (ih (List.forall_mem_nil _) (List.forall_mem_nil _)).cons_separator hc
          split
          · next hempty =>
              rw [List.isEmpty_iff.mp hempty]
              exact hrest
          · next hne =>
              exact .start (by simpa using hne) hrun (by simpa using hc) hrest
      · next hc =>
          have hlonger : ∀ d ∈ c :: current, separates d = false :=
            List.forall_mem_cons.mpr ⟨Bool.eq_false_iff.mpr hc, hcurrent⟩
          have hstep := ih hlonger fun d hd => hlonger d (List.mem_reverse.mp hd)
          rwa [List.reverse_cons, List.append_assoc, List.singleton_append] at hstep

theorem runs_append_of_separators {gap : List Char} (h : ∀ c ∈ gap, separates c = true)
    (s : List Char) : runs separates (gap ++ s) = runs separates s := by
  induction gap with
  | nil => rfl
  | cons c gap ih =>
      obtain ⟨hc, hgap⟩ := List.forall_mem_cons.mp h
      rw [List.cons_append, runs, runsFrom, if_pos hc]
      exact ih hgap

theorem Delimited.runs_eq (h : Delimited separates s rs) : runs separates s = rs := by
  induction h with
  | gap hgap => simpa [runs, runsFrom] using runs_append_of_separators hgap []
  | @run gap run rest rs hgap hne hrun hend hrest ih =>
      rw [runs_append_of_separators hgap]
      cases rest with
      | nil =>
          rw [List.append_nil, runs_of_none hne hrun, ← ih]
          rfl
      | cons sep rest =>
          have hsep : separates sep = true := hend sep rfl
          have hskip := runs_append_of_separators (List.forall_mem_singleton.mpr hsep) rest
          rw [runs_append_cons hne hrun hsep, ← ih, ← hskip]
          rfl

theorem delimited_iff : Delimited separates s rs ↔ runs separates s = rs :=
  ⟨Delimited.runs_eq, fun h => h ▸ delimited_runsFrom (List.forall_mem_nil _) s⟩

/-- Between the runs nothing but separators is lost. -/
theorem Delimited.flatten_eq (h : Delimited separates s rs) :
    rs.flatten = s.filter fun c => !separates c := by
  induction h with
  | gap hgap => simpa using hgap
  | @run gap run _ _ hgap _ hrun _ _ ih =>
      have hlost : gap.filter (fun c => !separates c) = [] :=
        List.filter_eq_nil_iff.mpr fun c hc => by simp [hgap c hc]
      have hkept : run.filter (fun c => !separates c) = run :=
        List.filter_eq_self.mpr fun c hc => by simp [hrun c hc]
      rw [List.flatten_cons, ih, List.filter_append, List.filter_append, hlost, hkept,
        List.nil_append]

end Text

namespace Words

open Text

variable {count : Nat} {token v w : List Char}

/-! ## One word -/

/-- Capitals may stand inside the words of a token without lowercase letters that is not the only
one. -/
def KeepsCapitals (count : Nat) (token : List Char) : Prop :=
  2 ≤ count ∧ ∀ c ∈ token, isLower c = false

/-- What a word of a token is, for a text of that many tokens. -/
structure Fits (count : Nat) (token word : List Char) : Prop where
  ne_nil : word ≠ []
  oneKind : ∀ c ∈ word, ∀ d ∈ word, letterKind c = letterKind d
  capitals : ∀ c ∈ word.tail, isUpper c = true → KeepsCapitals count token

/-- Whether words of a token break in front of capitals. -/
def breaks (count : Nat) (token : List Char) : Bool :=
  !(1 < count && !token.any isLower)

theorem breaks_eq_true_iff : breaks count token = true ↔ ¬KeepsCapitals count token := by
  rw [breaks, KeepsCapitals, Bool.not_eq_true', ← Bool.not_eq_true, Bool.and_eq_true,
    decide_eq_true_eq, Bool.not_eq_true', List.any_eq_false]
  simp [Nat.lt_iff_add_one_le]

theorem joined_eq_true_iff {b : Bool} {c d : Char} :
    joined b c d = true ↔ letterKind d = letterKind c ∧ (isUpper d = true → ¬b = true) := by
  rw [joined, Bool.and_eq_true, beq_iff_eq, Bool.not_eq_true', Bool.and_eq_false_iff]
  cases b <;> simp [and_comm]

/-- Each character of a word could stand right behind the first one. -/
theorem isChain_joined_iff {b : Bool} {c : Char} :
    ((c :: w).IsChain fun x y => joined b x y = true) ↔ ∀ d ∈ w, joined b c d = true := by
  induction w generalizing c with
  | nil => simp
  | cons d w ih =>
      rw [List.isChain_cons_cons, ih, List.forall_mem_cons]
      refine and_congr_right fun hcd => forall₂_congr fun e _ => ?_
      rw [joined_eq_true_iff, joined_eq_true_iff, (joined_eq_true_iff.mp hcd).1]

theorem fits_iff : Fits count token w ↔
    w ≠ [] ∧ w.IsChain fun x y => joined (breaks count token) x y = true := by
  cases w with
  | nil => exact ⟨fun h => absurd rfl h.ne_nil, fun h => absurd rfl h.1⟩
  | cons c w =>
      rw [isChain_joined_iff]
      simp only [joined_eq_true_iff, breaks_eq_true_iff, not_not]
      constructor
      · intro h
        refine ⟨h.ne_nil, fun d hd => ⟨?_, h.capitals d hd⟩⟩
        exact h.oneKind d (List.mem_cons_of_mem _ hd) c List.mem_cons_self
      · rintro ⟨hne, hall⟩
        have hfirst : ∀ d ∈ c :: w, letterKind d = letterKind c :=
          List.forall_mem_cons.mpr ⟨rfl, fun d hd => (hall d hd).1⟩
        exact ⟨hne, fun d hd e he => (hfirst d hd).trans (hfirst e he).symm,
          fun d hd => (hall d hd).2⟩

/-- Two words make one word unless cutting breaks between them. -/
theorem not_fits_append_iff (hv : Fits count token v) (hw : Fits count token w) :
    ¬Fits count token (v ++ w) ↔
      ∃ hv hw, joined (breaks count token) (v.getLast hv) (w.head hw) = false := by
  obtain ⟨hvne, hvchain⟩ := fits_iff.mp hv
  obtain ⟨hwne, hwchain⟩ := fits_iff.mp hw
  rw [fits_iff, List.isChain_append, List.getLast?_eq_some_getLast hvne,
    List.head?_eq_some_head hwne]
  simp [hvne, hwne, hvchain, hwchain]

/-! ## The words of a token -/

/-- Words that make up their token, none of which could be longer. -/
structure Coarsest (count : Nat) (words : List (List Char)) : Prop where
  fits : ∀ w ∈ words, Fits count words.flatten w
  apart : words.IsChain fun v w => ¬Fits count words.flatten (v ++ w)

theorem ofToken_eq_iff {words : List (List Char)} :
    ofToken (breaks count token) token = words ↔ words.flatten = token ∧ Coarsest count words := by
  rw [ofToken, List.splitBy_eq_iff, eq_comm]
  refine and_congr_right ?_
  rintro rfl
  have hfits : (∀ w ∈ words, Fits count words.flatten w) ↔ [] ∉ words ∧
      ∀ w ∈ words, w.IsChain fun x y => joined (breaks count words.flatten) x y = true := by
    simp only [fits_iff, forall₂_and]
    refine and_congr_left fun _ => ⟨fun h hnil => h [] hnil rfl, ?_⟩
    rintro h _ hmem rfl
    exact h hmem
  have hapart (h : ∀ w ∈ words, Fits count words.flatten w) :
      (words.IsChain fun v w => ¬Fits count words.flatten (v ++ w)) ↔ words.IsChain fun v w =>
        ∃ hv hw, joined (breaks count words.flatten) (v.getLast hv) (w.head hw) = false := by
    constructor
    · exact fun hchain => hchain.imp_of_mem_imp fun v w hv hw =>
        (not_fits_append_iff (h v hv) (h w hw)).mp
    · exact fun hchain => hchain.imp_of_mem_imp fun v w hv hw =>
        (not_fits_append_iff (h v hv) (h w hw)).mpr
  constructor
  · rintro ⟨hne, hchains, hbreaks⟩
    have h := hfits.mpr ⟨hne, hchains⟩
    exact ⟨h, (hapart h).mpr hbreaks⟩
  · rintro ⟨h, hchain⟩
    obtain ⟨hne, hchains⟩ := hfits.mp h
    exact ⟨hne, hchains, (hapart h).mp hchain⟩

/-! ## The words of a text -/

/-- Words in groups, one group for each token of a text. -/
structure Grouping (s : List Char) (groups : List (List (List Char))) : Prop where
  tokens : Delimited (fun c => !isAlphanumeric c) s (groups.map List.flatten)
  coarsest : ∀ group ∈ groups, Coarsest groups.length group

/-- The words as cutting groups them. -/
def groups (s : List Char) : List (List (List Char)) :=
  (tokens s).map fun token => ofToken (breaks (tokens s).length token) token

theorem flatten_groups (s : List Char) : (groups s).flatten = splitChars s :=
  (List.flatMap_def ..).symm

theorem grouping_iff {s : List Char} {gs : List (List (List Char))} :
    Grouping s gs ↔ groups s = gs := by
  constructor
  · rintro ⟨hdelimited, hcoarsest⟩
    have htokens : tokens s = gs.map List.flatten := delimited_iff.mp hdelimited
    have hcount : (tokens s).length = gs.length := by rw [htokens, List.length_map]
    rw [groups, hcount, htokens, List.map_map]
    refine (List.map_congr_left fun group hgroup => ?_).trans (List.map_id gs)
    exact ofToken_eq_iff.mpr ⟨rfl, hcoarsest group hgroup⟩
  · rintro rfl
    have hgroups (token : List Char) :
        (ofToken (breaks (tokens s).length token) token).flatten = token ∧
          Coarsest (tokens s).length (ofToken (breaks (tokens s).length token) token) :=
      ofToken_eq_iff.mp rfl
    have htokens : (groups s).map List.flatten = tokens s := by
      rw [groups, List.map_map]
      refine (List.map_congr_left fun token _ => ?_).trans (List.map_id _)
      exact (hgroups token).1
    refine ⟨delimited_iff.mpr htokens.symm, fun group hgroup => ?_⟩
    obtain ⟨token, -, rfl⟩ := List.mem_map.mp hgroup
    rw [groups, List.length_map]
    exact (hgroups token).2

/-- The words of a name hold its letters and digits in order. They are the only words that make up
its tokens by the rules. -/
theorem split_follows_rules (s : String) :
    (split s).flatten = s.toList.filter isAlphanumeric ∧
      ∃ groups, Grouping s.toList groups ∧ split s = groups.flatten ∧
        ∀ others, Grouping s.toList others → others = groups := by
  have hgrouping : Grouping s.toList (groups s.toList) := grouping_iff.mpr rfl
  have hsplit : split s = (groups s.toList).flatten := (flatten_groups _).symm
  refine ⟨?_, groups s.toList, hgrouping, hsplit, fun others hothers => ?_⟩
  · have hkept := hgrouping.tokens.flatten_eq
    rw [← List.flatten_flatten] at hkept
    simpa [hsplit] using hkept
  · exact (grouping_iff.mp hothers).symm

end Words

end Scaffold
