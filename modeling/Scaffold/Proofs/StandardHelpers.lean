import Scaffold.Proofs.Rendering

namespace Scaffold

/-!
# The standard helpers

Every value has JSON text, and no standard helper faults on a value that
it accepts. Those that accept only texts give a text again.
-/

namespace Json

mutual

theorem write_thaw (layout : Layout) (level : Nat) (v : Value) :
    ∃ text, write layout level v.thaw = .ok text := by
  cases v with
  | bool b => cases b <;> exact ⟨_, rfl⟩
  | int | float | str => exact ⟨_, rfl⟩
  | list items =>
      obtain ⟨texts, htexts⟩ := writeItems_thaw layout (level + 1) items
      exact ⟨_, by rw [Value.thaw, write, htexts]; rfl⟩
  | map entries =>
      obtain ⟨texts, htexts⟩ := writeEntries_thaw layout (level + 1) entries
      exact ⟨_, by rw [Value.thaw, write, htexts]; rfl⟩

theorem writeItems_thaw (layout : Layout) (level : Nat) (items : List Value) :
    ∃ texts, writeItems layout level (Value.thawItems items) = .ok texts := by
  cases items with
  | nil => exact ⟨[], rfl⟩
  | cons item rest =>
      obtain ⟨text, htext⟩ := write_thaw layout level item
      obtain ⟨texts, htexts⟩ := writeItems_thaw layout level rest
      exact ⟨_, by rw [Value.thawItems, writeItems, htext, htexts]; rfl⟩

theorem writeEntries_thaw (layout : Layout) (level : Nat) (entries : List (String × Value)) :
    ∃ texts, writeEntries layout level (Value.thawEntries entries) = .ok texts := by
  cases entries with
  | nil => exact ⟨[], rfl⟩
  | cons entry rest =>
      obtain ⟨key, item⟩ := entry
      obtain ⟨text, htext⟩ := write_thaw layout level item
      obtain ⟨texts, htexts⟩ := writeEntries_thaw layout level rest
      exact ⟨_, by rw [Value.thawEntries, writeEntries, htext, htexts]; rfl⟩

end

theorem print_toDatum (layout : Layout) (v : Value) :
    ∃ text, print layout v.toDatum.thaw = .ok text := by
  rw [Datum.thaw_toDatum]
  exact write_thaw layout 0 v

end Json

namespace Value

theorem eq_str_of_kind {v : Value} (h : v.kind = .str) : ∃ s, v = .str s := by
  cases v with
  | str s => exact ⟨s, rfl⟩
  | bool | int | float | list | map => cases h

end Value

namespace Helper

/-- A helper that accepts texts only and turns them into texts. -/
structure TextToText (h : Helper) : Prop where
  arity : h.arity = 1
  accepts : h.accepts = [.str]
  apply (s : String) : ∃ t, h.apply (.str s) = .ok (.str t)

theorem TextToText.total {h : Helper} (htext : h.TextToText) : h.Total := by
  intro _ v haccepts
  have hkind : v.kind = .str := by simpa [acceptsValue, htext.accepts] using haccepts
  obtain ⟨s, rfl⟩ := Value.eq_str_of_kind hkind
  obtain ⟨t, ht⟩ := htext.apply s
  exact ⟨_, ht⟩

theorem textToText_ofText (name : String) (f : String → String) (otherwise : Datum → Fault) :
    (ofText name f otherwise).TextToText where
  arity := rfl
  accepts := rfl
  apply s := ⟨f s, rfl⟩

theorem textToText_pluralize : pluralize.TextToText where
  arity := rfl
  accepts := rfl
  apply s := ⟨Words.plural s, rfl⟩

theorem total_json : json.Total := by
  intro _ v _
  obtain ⟨text, htext⟩ := Json.print_toDatum .spaced v
  refine ⟨.str text, ?_⟩
  simp [json, htext, Except.map]

theorem total_length : length.Total := by
  intro _ v haccepts
  cases v with
  | str | list | map => exact ⟨_, rfl⟩
  | bool | int | float => simp [length, acceptsValue, Value.kind] at haccepts

end Helper

namespace Helpers

theorem standard_total : standard.Total := by
  intro h hmem
  simp only [standard, List.mem_cons, List.not_mem_nil, or_false] at hmem
  rcases hmem with rfl | rfl | rfl | rfl | rfl | rfl | rfl | rfl | rfl | rfl | rfl | rfl
  all_goals
    first
    | exact (Helper.textToText_ofText ..).total
    | exact Helper.textToText_pluralize.total
    | exact Helper.total_json
    | exact Helper.total_length

end Helpers

end Scaffold
