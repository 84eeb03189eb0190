import Scaffold.Proofs.Fields
import Scaffold.Template.Helper

namespace Scaffold

/-!
# Sets of helpers

Every helper of a set that was made by inserting helpers one by one has a
name that can be written in a tag.
-/

namespace Helper

theorem isWord_of_isName {s : String} (h : isName s = true) : Tag.IsWord s.toList := by
  unfold isName at h
  cases hs : s.toList with
  | nil => simp [hs] at h
  | cons c cs =>
      rw [hs] at h
      obtain ⟨hc, hcs⟩ := Bool.and_eq_true_iff.mp h
      refine ⟨List.cons_ne_nil _ _, ?_⟩
      intro d hd
      have hchar : d.isAlphanum = true ∨ d = '_' := by
        rcases List.mem_cons.mp hd with rfl | hd
        · have halpha : d.isAlpha = true := Bool.or_eq_true_iff.mpr (Or.inr hc)
          exact Or.inl (Bool.or_eq_true_iff.mpr (Or.inl halpha))
        · simpa using List.all_eq_true.mp hcs d hd
      refine Or.inl ?_
      rcases hchar with hd | hd
      · simp [Path.isNameChar, hd]
      · simp [Path.isNameChar, hd]

end Helper

namespace Helpers

theorem eq_or_mem_of_mem_putIn {h g : Helper} {list : List Helper} (hg : g ∈ putIn h list) :
    g = h ∨ g ∈ list := by
  induction list with
  | nil => exact Or.inl (List.mem_singleton.mp hg)
  | cons first list ih =>
      rw [putIn] at hg
      split at hg
      · rcases List.mem_cons.mp hg with hg | hg
        · exact Or.inl hg
        · exact Or.inr (List.mem_cons_of_mem _ hg)
      · rcases List.mem_cons.mp hg with rfl | hg
        · exact Or.inr (List.mem_cons_self ..)
        · rcases ih hg with hg | hg
          · exact Or.inl hg
          · exact Or.inr (List.mem_cons_of_mem _ hg)

theorem insert_eq_ok_iff {hs more : Helpers} {h : Helper} :
    hs.insert h = .ok more ↔ Helper.isName h.name = true ∧ more = ⟨putIn h hs.list⟩ := by
  unfold insert
  by_cases hname : Helper.isName h.name = true
  · simp [hname, eq_comm]
  · simp [hname]

/-- Helpers that can be called. -/
def Named (hs : Helpers) : Prop :=
  ∀ h ∈ hs.list, Helper.isName h.name = true

theorem Named.insert {hs more : Helpers} {h : Helper} (hnamed : hs.Named)
    (hinsert : hs.insert h = .ok more) : more.Named := by
  obtain ⟨hname, rfl⟩ := insert_eq_ok_iff.mp hinsert
  intro g hg
  rcases eq_or_mem_of_mem_putIn hg with rfl | hg
  · exact hname
  · exact hnamed g hg

theorem Named.extend {hs more : Helpers} {list : List Helper} (hnamed : hs.Named)
    (hextend : hs.extend list = .ok more) : more.Named := by
  induction list generalizing hs with
  | nil =>
      cases hextend
      exact hnamed
  | cons h list ih =>
      rw [Helpers.extend, List.foldlM_cons] at hextend
      cases hinsert : hs.insert h with
      | error e =>
          rw [hinsert] at hextend
          cases hextend
      | ok next =>
          rw [hinsert] at hextend
          exact ih (hnamed.insert hinsert) hextend

theorem named_of_ofList {list : List Helper} {hs : Helpers} (h : ofList list = .ok hs) :
    hs.Named := by
  have hempty : Named ⟨[]⟩ := by simp [Named]
  exact hempty.extend h

theorem Named.isName_of_knows {hs : Helpers} (hnamed : hs.Named) {name : String}
    (h : hs.knows name = true) : Helper.isName name = true := by
  obtain ⟨g, hg⟩ := Option.isSome_iff_exists.mp h
  rw [find?] at hg
  have hname := List.find?_some hg
  rw [← beq_iff_eq.mp hname]
  exact hnamed g (List.mem_of_find?_eq_some hg)

theorem ofList_standard : ofList standard.list = .ok standard := by
  rfl

end Helpers

end Scaffold
