import Mathlib.Data.List.Forall2
import Scaffold.Proofs.PathSyntax

namespace Scaffold

/-!
# Selecting the parts of a value

Decimal digits of every script are digits, so that an index in a path
always selects an item of a list by its number. The parts of a collection
are selected by segments of their own, the numerals of a list and the keys
of a map, and a walk goes on from the part that is selected.
-/

/-! ## Digits of every script -/

namespace Text

theorem val_lt_of_isDigit {c : Char} (h : c.isDigit = true) : c.val < 128 := by
  rw [Char.isDigit_iff_toNat] at h
  have hnine : c.toNat ≤ 57 := h.2
  rw [UInt32.lt_iff_toNat_lt]
  change c.toNat < 128
  omega

theorem isDigit_of_ascii {c : Char} (h : c.isDigit = true) : isDigit c = true := by
  rw [isDigit, classify, if_pos (val_lt_of_isDigit h)]
  exact h

theorem decimalValue?_of_ascii {c : Char} (h : c.isDigit = true) :
    decimalValue? c = some (c.toNat - '0'.toNat) := by
  rw [decimalValue?, if_pos (val_lt_of_isDigit h), if_pos h]

/-- The ten digits of every script are in the table of digits. -/
theorem digit_contains_of_first {first : Nat} (h : first ∈ Tables.decimalZero) {k : Nat}
    (hk : k < 10) : Tables.digit.contains (first + k) = true := by
  have hall : Tables.decimalZero.toList.all (fun z =>
      (List.range 10).all fun k => Tables.digit.contains (z + k)) = true := by
    decide +kernel
  have hfirst := List.all_eq_true.mp hall first (Array.mem_toList_iff.mpr h)
  exact List.all_eq_true.mp hfirst k (List.mem_range.mpr hk)

theorem isDigit_of_isDecimal {c : Char} (h : isDecimal c = true) : isDigit c = true := by
  rw [isDecimal, decimalValue?] at h
  rw [isDigit, classify]
  by_cases hascii : c.val < 128
  · rw [if_pos hascii] at h ⊢
    by_cases hc : c.isDigit = true
    · exact hc
    · simp [hc] at h
  · rw [if_neg hascii] at h ⊢
    rw [Option.isSome_map, Array.find?_isSome] at h
    obtain ⟨first, hfirst, hrange⟩ := h
    simp only [Bool.and_eq_true, decide_eq_true_eq] at hrange
    obtain ⟨hlow, hhigh⟩ := hrange
    have hk : c.toNat - first < 10 := by omega
    have hcontains := digit_contains_of_first hfirst hk
    rwa [Nat.add_sub_cancel' hlow] at hcontains

end Text

namespace Value

/-- What a path admits as an index selects by its number. -/
theorem isIndex_of_pathIndex {s : String} (h : Path.isIndex s.toList = true) :
    isIndex s = true := by
  have hne : s ≠ "" := by
    rintro rfl
    exact absurd h (by decide)
  rw [isIndex, Bool.and_eq_true]
  refine ⟨bne_iff_ne.mpr hne, List.all_eq_true.mpr fun c hc => ?_⟩
  exact Text.isDigit_of_isDecimal (Path.isDecimal_of_mem_isIndex h hc)

theorem child?_list {s : String} {n : Nat} (hs : isIndex s = true) (hn : index? s = .ok n)
    (items : List Value) : (Value.list items).child? s = .ok items[n]? := by
  rw [child?, if_pos hs, hn]
  rfl

/-! ## Numerals -/

theorem foldlM_ascii {digits : List Char} (h : ∀ c ∈ digits, c.isDigit = true) (n : Nat) :
    digits.foldlM (fun n c => (Text.decimalValue? c).map (10 * n + ·)) n
      = some (Nat.ofDigitChars 10 digits n) := by
  induction digits generalizing n with
  | nil => rfl
  | cons c cs ih =>
      obtain ⟨hc, hcs⟩ := List.forall_mem_cons.mp h
      rw [List.foldlM_cons, Text.decimalValue?_of_ascii hc, Nat.ofDigitChars_cons]
      exact ih hcs _

theorem toList_toString (n : Nat) : (toString n).toList = Nat.toDigits 10 n :=
  Nat.toList_repr

theorem isDigit_of_mem_numeral {n : Nat} {c : Char} (h : c ∈ (toString n).toList) :
    c.isDigit = true := by
  rw [toList_toString] at h
  exact Nat.isDigit_of_mem_toDigits (by decide) (by decide) h

theorem isIndex_toString (n : Nat) : isIndex (toString n) = true := by
  have hne : toString n ≠ "" := by
    intro h
    have hdigits := toList_toString n
    rw [h] at hdigits
    exact Nat.toDigits_ne_nil hdigits.symm
  rw [isIndex, Bool.and_eq_true]
  refine ⟨bne_iff_ne.mpr hne, List.all_eq_true.mpr fun c hc => ?_⟩
  exact Text.isDigit_of_ascii (isDigit_of_mem_numeral hc)

theorem index?_toString (n : Nat) : index? (toString n) = .ok n := by
  have hfold := foldlM_ascii (fun c hc => isDigit_of_mem_numeral (n := n) hc) 0
  rw [toList_toString, Nat.ofDigitChars_toDigits (by decide) (by decide)] at hfold
  rw [index?, toList_toString, hfold]

/-- The numeral of a number selects the item with that number. -/
theorem child?_toString (items : List Value) (n : Nat) :
    (Value.list items).child? (toString n) = .ok items[n]? :=
  child?_list (isIndex_toString n) (index?_toString n) items

/-! ## The segments of a collection -/

/-- The segments that select the parts of a collection, in order. -/
def segments? : Value → Option (List String)
  | .list items => some ((List.range items.length).map toString)
  | .map entries => some (entries.map (·.1))
  | _ => none

/-- No two entries of a map have one key. -/
def KeysDistinct : Value → Prop
  | .map entries => (entries.map (·.1)).Nodup
  | _ => True

end Value

theorem lookup_map_of_mem {α β γ : Type} [BEq β] [LawfulBEq β] {key : α → β} {item : α → γ}
    {xs : List α} (hdistinct : (xs.map key).Nodup) {x : α} (hx : x ∈ xs) :
    (xs.map fun y => (key y, item y)).lookup (key x) = some (item x) := by
  induction xs with
  | nil => cases hx
  | cons y xs ih =>
      rw [List.map_cons, List.nodup_cons] at hdistinct
      rw [List.map_cons, List.lookup_cons]
      rcases List.mem_cons.mp hx with rfl | hx
      · simp
      · have hne : (key x == key y) = false := by
          refine beq_eq_false_iff_ne.mpr fun heq => hdistinct.1 ?_
          rw [← heq]
          exact List.mem_map_of_mem hx
        simp only [hne]
        exact ih hdistinct.2 hx

namespace Value

theorem child?_entry {entries : List (String × Value)} (h : (entries.map (·.1)).Nodup)
    {entry : String × Value} (hentry : entry ∈ entries) :
    (Value.map entries).child? entry.1 = .ok (some entry.2) := by
  have hlookup : (entries.map fun e => (e.1, e.2)).lookup entry.1 = some entry.2 :=
    lookup_map_of_mem h hentry
  rw [show (entries.map fun e => (e.1, e.2)) = entries from List.map_id' entries] at hlookup
  rw [child?, hlookup]

/-! ## Walks -/

theorem walk_append {v w : Value} {before : List String} (h : v.walk before = .ok (some w))
    (after : List String) : v.walk (before ++ after) = w.walk after := by
  induction before generalizing v with
  | nil =>
      cases h
      rfl
  | cons segment before ih =>
      rw [walk] at h
      rw [List.cons_append, walk]
      cases hchild : v.child? segment with
      | error f =>
          rw [hchild] at h
          cases h
      | ok part =>
          rw [hchild] at h
          cases part with
          | none => cases h
          | some part => exact ih h

theorem walk_append_cons {v w item : Value} {before : List String} {segment : String}
    (h : v.walk before = .ok (some w)) (hchild : w.child? segment = .ok (some item))
    (after : List String) : v.walk (before ++ segment :: after) = item.walk after := by
  rw [walk_append h, walk_cons w segment after hchild]
  rfl

end Value

end Scaffold
