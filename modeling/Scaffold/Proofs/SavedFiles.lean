import Scaffold.ConfigFile
import Scaffold.Proofs.FileTrees
import Scaffold.Proofs.Freezing
import Scaffold.Proofs.JsonReading
import Scaffold.Proofs.ReadingFiles

namespace Scaffold

/-!
# Reading what was saved

A file is written at the end of a way that may lead through links. The file
is the only node that is new, and the way meets it at its end alone, so the
same names lead to it afterwards. Reading changes line ends, but printed data
have none that it would change.
-/

namespace FileTree

variable {t u : FileTree} {l here : Location} {names : List String} {content : ByteArray}

/-- Names lead to a place for a file, where there is one or nothing, through at most as many links
as are followed. -/
inductive Leads (t : FileTree) (l : Location) : Nat → Location → List String → Prop
  | up {links : Nat} {here : Location} {rest : List String}
      (h : Leads t l (links + 1) here.dropLast rest) : Leads t l (links + 1) here (".." :: rest)
  | down {links : Nat} {here : Location} {name : String} {rest : List String} (hname : name ≠ "..")
      (hnode : t.node? (here ++ [name]) = some .directory)
      (h : Leads t l (links + 1) (here ++ [name]) rest) : Leads t l (links + 1) here (name :: rest)
  | link {links : Nat} {here : Location} {name : String} {rest : List String} {target : PathName}
      (hname : name ≠ "..") (hnode : t.node? (here ++ [name]) = some (.link target))
      (h : Leads t l links (if target.isAbsolute then [] else here) (target.parts ++ rest)) :
      Leads t l (links + 1) here (name :: rest)
  | last {links : Nat} {here : Location} {name : String} (hname : name ≠ "..")
      (hplace : here ++ [name] = l)
      (hnode : t.node? l = none ∨ ∃ old, t.node? l = some (.file old)) :
      Leads t l (links + 1) here [name]

/-- Walking ends where a file can be put. -/
def Reaches (l : Location) (a : Arrival) : Prop :=
  a = .gap l ∨ ∃ old, a = .there l (.file old)

theorem not_reaches_stuck (l : Location) (trouble : FileTrouble) : ¬Reaches l (.stuck trouble) := by
  rintro (h | ⟨old, h⟩) <;> cases h

theorem not_reaches_directory (l here : Location) : ¬Reaches l (.there here .directory) := by
  rintro (h | ⟨old, h⟩) <;> cases h

theorem leads_of_reaches {links : Nat} (h : Reaches l (t.walkThrough links here names)) :
    t.Leads l links here names := by
  induction links generalizing here names with
  | zero => exact absurd h (not_reaches_stuck l _)
  | succ links ih =>
      rw [walkThrough] at h
      induction names generalizing here with
      | nil => exact absurd h (not_reaches_directory l here)
      | cons name rest ihrest =>
          rw [walkIn] at h
          split at h
          · next hup =>
              subst hup
              exact .up (ihrest h)
          · next hname =>
              dsimp only at h
              split at h
              · next hnone =>
                  split at h
                  · exact absurd h (not_reaches_stuck l _)
                  · split at h
                    · next hempty =>
                        obtain rfl := List.isEmpty_iff.mp hempty
                        obtain rfl : here ++ [name] = l := by
                          rcases h with h | ⟨old, h⟩ <;> cases h
                          rfl
                        exact .last hname rfl (.inl hnone)
                    · exact absurd h (not_reaches_stuck l _)
              · next hnode => exact .down hname hnode (ihrest h)
              · next old hnode =>
                  split at h
                  · next hempty =>
                      obtain rfl := List.isEmpty_iff.mp hempty
                      obtain rfl : here ++ [name] = l := by
                        rcases h with h | ⟨old, h⟩ <;> cases h
                        rfl
                      exact .last hname rfl (.inr ⟨old, hnode⟩)
                  · exact absurd h (not_reaches_stuck l _)
              · next target hnode => exact .link hname hnode (ih h)

theorem Leads.place {links : Nat} (h : t.Leads l links here names) :
    l ≠ [] ∧ (t.node? l = none ∨ ∃ old, t.node? l = some (.file old)) := by
  induction h with
  | up _ ih => exact ih
  | down _ _ _ ih => exact ih
  | link _ _ _ ih => exact ih
  | last _ hplace hnode => exact ⟨by simp [← hplace], hnode⟩

/-- Once a file is put at the place, the names lead to it. -/
theorem Leads.walkThrough_put {links : Nat} (h : t.Leads l links here names) (content : ByteArray) :
    (t.put l (.file content)).walkThrough links here names = .there l (.file content) := by
  obtain ⟨hne, hplace⟩ := h.place
  -- directories and links are not where the file is put
  have hother {m : Location} {node : TreeNode} (hnode : t.node? m = some node)
      (hkind : ∀ old, node ≠ .file old) : (t.put l (.file content)).node? m = some node := by
    rw [node?_put hne, if_neg, hnode]
    rintro rfl
    rcases hplace with hplace | ⟨old, hplace⟩
    · rw [hplace] at hnode
      cases hnode
    · rw [hplace] at hnode
      cases hnode
      exact hkind old rfl
  induction h with
  | up _ ih =>
      rw [walkThrough, walkIn, if_pos rfl, ← walkThrough]
      exact ih
  | down hname hnode _ ih =>
      rw [walkThrough, walkIn, if_neg hname]
      simp only [hother hnode (by simp)]
      rw [← walkThrough]
      exact ih
  | link hname hnode _ ih =>
      rw [walkThrough, walkIn, if_neg hname]
      simp only [hother hnode (by simp)]
      exact ih
  | last hname hl =>
      rw [walkThrough, walkIn, if_neg hname, hl]
      simp only [node?_put hne, if_true]
      rfl

/-- A file is read as it was written. -/
theorem read_of_write (h : t.write names content = .ok u) : u.read names = .ok content := by
  have hreaches : ∃ l, Reaches l (t.walk names) ∧ u = t.put l (.file content) := by
    unfold write at h
    split at h
    · next l old hwalk => exact ⟨l, .inr ⟨old, hwalk⟩, (Except.ok.inj h).symm⟩
    · cases h
    · next l hwalk => exact ⟨l, .inl hwalk, (Except.ok.inj h).symm⟩
    · cases h
  obtain ⟨l, hreaches, rfl⟩ := hreaches
  rw [read, walk, (leads_of_reaches hreaches).walkThrough_put]

theorem read_of_writeWithin (h : t.writeWithin names content = (u, none)) :
    u.read names = .ok content := by
  unfold writeWithin at h
  split at h
  · cases h
  · split at h
    · next v hwrite =>
        obtain rfl : v = u := (Prod.mk.inj h).1
        exact read_of_write hwrite
    · cases h

end FileTree

/-! ## Carriage returns in printed data -/

namespace FloatLayout

variable {layout : FloatLayout}

theorem return_not_mem_toDigits (n : Nat) : '\r' ∉ Nat.toDigits 10 n := fun h =>
  absurd (Nat.isDigit_of_mem_toDigits (by decide) (by decide) h) (by decide)

theorem return_not_mem_positional {ds : List Char} (h : '\r' ∉ ds) (point : Int) :
    '\r' ∉ positional ds point := by
  unfold positional
  dsimp only
  split
  · simp [h]
  · split
    · simp [h]
    · have htake : '\r' ∉ ds.take point.toNat := fun hmem => h (List.mem_of_mem_take hmem)
      have hdrop : '\r' ∉ ds.drop point.toNat := fun hmem => h (List.mem_of_mem_drop hmem)
      simp [htake, hdrop]

theorem return_not_mem_scientific {ds : List Char} (h : '\r' ∉ ds) (point : Int) :
    '\r' ∉ layout.scientific ds point := by
  have hexponent : '\r' ∉ (toString (point - 1).natAbs).toList := by
    rw [show (toString (point - 1).natAbs).toList = _ from String.toList_ofList]
    exact return_not_mem_toDigits _
  have hsign : '\r' ∉ (if point - 1 < 0 then ['-'] else
      if layout.plusExponent then ['+'] else []) := by
    split
    · decide
    · split <;> decide
  unfold scientific
  dsimp only
  generalize (toString (point - 1).natAbs).toList = digits at hexponent ⊢
  generalize (if point - 1 < 0 then ['-'] else
    if layout.plusExponent then ['+'] else []) = sign at hsign ⊢
  cases ds with
  | nil => simp [hexponent, hsign]
  | cons d ds =>
      obtain ⟨hd, hds⟩ := not_or.mp fun hmem => h (List.mem_cons.mpr hmem)
      cases ds with
      | nil => simp [hd, hexponent, hsign]
      | cons d' ds => simpa [hd, hexponent, hsign] using hds

theorem return_not_mem_text (hnan : '\r' ∉ layout.nan.toList)
    (hinfinity : '\r' ∉ layout.infinity.toList)
    (hnegative : '\r' ∉ layout.negativeInfinity.toList) (x : Double) :
    '\r' ∉ (layout.write x).toList := by
  match x with
  | .nan => exact hnan
  | .infinite false => exact hinfinity
  | .infinite true => exact hnegative
  | .finite negative m e =>
      have hdigits : '\r' ∉ (((toString (Double.shortest (.finite negative m e)).1).toList.reverse
          |>.dropWhile (· == '0')).reverse) := by
        intro hmem
        have hall := (List.dropWhile_suffix _).subset (List.mem_reverse.mp hmem)
        have htext := return_not_mem_toDigits (Double.shortest (.finite negative m e)).1
        exact htext (by simpa using hall)
      unfold write
      dsimp only
      rw [String.toList_ofList]
      have hbody (body : List Char) (h : '\r' ∉ body) :
          '\r' ∉ (if negative then '-' :: body else body) := by
        split <;> simp [h]
      apply hbody
      split
      · decide
      · split
        · exact return_not_mem_positional hdigits _
        · exact return_not_mem_scientific hdigits _

end FloatLayout

namespace Json

variable {layout : Layout}

theorem return_not_mem_escapeChar (c : Char) : '\r' ∉ escapeChar c := by
  have hhex : ∀ n < 32, '\r' ∉ '\\' :: 'u' :: Text.hexDigits 4 n := by decide +kernel
  by_cases hc : c ∈ lettered
  · simp only [lettered, List.mem_cons, List.not_mem_nil, or_false] at hc
    rcases hc with rfl | rfl | rfl | rfl | rfl | rfl | rfl <;> decide
  · rw [escapeChar_of_not_lettered hc]
    split
    · next hlow => exact hhex _ hlow
    · rw [List.mem_singleton]
      rintro rfl
      exact hc (by decide)

theorem return_not_mem_quote (s : String) : '\r' ∉ (quote s).toList := by
  rw [quote, String.toList_ofList]
  have hescaped : '\r' ∉ s.toList.flatMap escapeChar := fun h => by
    obtain ⟨c, -, hc⟩ := List.mem_flatMap.mp h
    exact return_not_mem_escapeChar c hc
  simp [hescaped]

theorem return_not_mem_int (n : Int) : '\r' ∉ (toString n).toList := by
  cases n with
  | ofNat m =>
      have htext : (toString (Int.ofNat m)).toList = Nat.toDigits 10 m := String.toList_ofList
      exact htext ▸ FloatLayout.return_not_mem_toDigits m
  | negSucc m =>
      have htext : (toString (Int.negSucc m)).toList = '-' :: Nat.toDigits 10 (m + 1) := by
        change ("-" ++ String.ofList (Nat.toDigits 10 (m + 1))).toList = _
        simp
      rw [htext]
      simp [FloatLayout.return_not_mem_toDigits]

/-- What the layout itself puts between values has no carriage returns. -/
structure Layout.NoReturns (layout : Layout) : Prop where
  items : '\r' ∉ layout.itemSeparator.toList
  keys : '\r' ∉ layout.keySeparator.toList
  floats : ∀ x, '\r' ∉ (layout.floats.write x).toList

theorem return_not_mem_lineBreak (layout : Layout) (level : Nat) :
    '\r' ∉ (layout.lineBreak level).toList := by
  unfold Layout.lineBreak
  split <;> simp

theorem not_mem_intercalate {c : Char} {separator : List Char} (hseparator : c ∉ separator)
    {parts : List (List Char)} (hparts : ∀ part ∈ parts, c ∉ part) :
    c ∉ List.intercalate separator parts := by
  induction parts with
  | nil => exact List.not_mem_nil
  | cons part parts ih =>
      obtain ⟨hpart, hrest⟩ := List.forall_mem_cons.mp hparts
      cases parts with
      | nil => rwa [List.intercalate_singleton]
      | cons next parts =>
          rw [List.intercalate_cons_cons]
          simp [hpart, hseparator, ih hrest]

theorem return_not_mem_enclose (h : layout.NoReturns) (level : Nat) {opening closing : String}
    (hopening : '\r' ∉ opening.toList) (hclosing : '\r' ∉ closing.toList) {parts : List String}
    (hparts : ∀ part ∈ parts, '\r' ∉ part.toList) :
    '\r' ∉ (layout.enclose level opening closing parts).toList := by
  by_cases hempty : parts = []
  · subst hempty
    have hnone : layout.enclose level opening closing [] = opening ++ closing := rfl
    rw [hnone, String.toList_append]
    simp [hopening, hclosing]
  · rw [Layout.toList_enclose layout level opening closing hempty]
    have hbreak := return_not_mem_lineBreak layout
    have hseparator : '\r' ∉ layout.itemSeparator.toList
        ++ (layout.lineBreak (level + 1)).toList := by
      simp [h.items, hbreak]
    have hinner := not_mem_intercalate hseparator (List.forall_mem_map.mpr hparts)
    simp only [List.mem_append, not_or]
    exact ⟨hopening, ⟨hbreak _, hinner⟩, hbreak _, hclosing⟩

mutual

/-- Printed data have no carriage returns. -/
theorem return_not_mem_write (h : layout.NoReturns) (level : Nat) (d : Datum) {text : String}
    (hwrite : write layout level d = .ok text) : '\r' ∉ text.toList := by
  have hquoted (s : String) (hs : Except.ok (quote s) = Except.ok (ε := Fault) text) :
      '\r' ∉ text.toList := Except.ok.inj hs ▸ return_not_mem_quote s
  cases d with
  | null =>
      cases hwrite
      decide
  | bool b => cases b <;> cases hwrite <;> decide
  | int n =>
      cases hwrite
      exact return_not_mem_int n
  | float x =>
      cases hwrite
      exact h.floats x
  | str s => exact hquoted s hwrite
  | list items | tuple items =>
      obtain ⟨texts, htexts, hwrite⟩ := Datum.exists_of_bind_eq_ok hwrite
      cases hwrite
      exact return_not_mem_enclose h level (by decide) (by decide)
        (return_not_mem_writeItems h (level + 1) items htexts)
  | map entries =>
      obtain ⟨texts, htexts, hwrite⟩ := Datum.exists_of_bind_eq_ok hwrite
      cases hwrite
      exact return_not_mem_enclose h level (by decide) (by decide)
        (return_not_mem_writeEntries h (level + 1) entries htexts)
  | enum _ | context _ | unsupported _ =>
      simp only [write] at hwrite
      split at hwrite
      · exact hquoted _ hwrite
      · cases hwrite

theorem return_not_mem_writeItems (h : layout.NoReturns) (level : Nat) (items : List Datum)
    {texts : List String} (hwrite : writeItems layout level items = .ok texts) :
    ∀ text ∈ texts, '\r' ∉ text.toList := by
  cases items with
  | nil =>
      cases hwrite
      exact List.forall_mem_nil _
  | cons item rest =>
      obtain ⟨text, htext, hwrite⟩ := Datum.exists_of_bind_eq_ok hwrite
      obtain ⟨texts, htexts, hwrite⟩ := Datum.exists_of_bind_eq_ok hwrite
      cases hwrite
      exact List.forall_mem_cons.mpr ⟨return_not_mem_write h level item htext,
        return_not_mem_writeItems h level rest htexts⟩

theorem return_not_mem_writeEntries (h : layout.NoReturns) (level : Nat)
    (entries : List (Datum × Datum)) {texts : List String}
    (hwrite : writeEntries layout level entries = .ok texts) :
    ∀ text ∈ texts, '\r' ∉ text.toList := by
  cases entries with
  | nil =>
      cases hwrite
      exact List.forall_mem_nil _
  | cons entry rest =>
      obtain ⟨key, item⟩ := entry
      obtain ⟨name, -, hwrite⟩ := Datum.exists_of_bind_eq_ok hwrite
      obtain ⟨text, htext, hwrite⟩ := Datum.exists_of_bind_eq_ok hwrite
      obtain ⟨texts, htexts, hwrite⟩ := Datum.exists_of_bind_eq_ok hwrite
      cases hwrite
      refine List.forall_mem_cons.mpr ⟨?_, return_not_mem_writeEntries h level rest htexts⟩
      simp [String.toList_append, return_not_mem_quote, h.keys,
        return_not_mem_write h level item htext]

end

theorem Layout.noReturns_record : Layout.record.NoReturns where
  items := by decide
  keys := by decide
  floats := FloatLayout.return_not_mem_text (by decide) (by decide) (by decide)

end Json

/-! ## Saved data -/

namespace ConfigFile

variable {t u : FileTree} {cwd : Location} {p : PathName} {d : Datum} {layout : Json.Layout}

theorem read_of_saveJson (h : saveJson layout t cwd p d = (u, .ok ())) :
    ∃ text, Json.print layout d = .ok text ∧ u.read (p.namesFrom cwd) = .ok text.toUTF8 := by
  unfold saveJson at h
  split at h
  · cases h
  · split at h
    · cases h
    · split at h
      · cases h
      · next text hprint =>
          split at h
          · cases h
          · refine ⟨text, hprint, ?_⟩
            unfold saveText at h
            split at h
            · next v hwrite =>
                obtain rfl : v = u := (Prod.mk.inj h).1
                exact FileTree.read_of_writeWithin hwrite
            · cases h

/-- Where data are saved, their text is read. -/
theorem textRead_of_saveJson (hlayout : layout.NoReturns)
    (h : saveJson layout t cwd p d = (u, .ok ())) (shown : String) :
    ∃ text, Json.print layout d = .ok text ∧
      TextFile.read u (p.namesFrom cwd) shown = .ok text := by
  obtain ⟨text, hprint, hread⟩ := read_of_saveJson h
  have hplain := Json.return_not_mem_write hlayout 0 d hprint
  exact ⟨text, hprint, TextFile.read_toUTF8 hread hplain shown⟩

end ConfigFile

end Scaffold
