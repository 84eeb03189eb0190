import Scaffold.Proofs.Linking
import Scaffold.Proofs.MalformedDecisions

namespace Scaffold

/-!
# Models of the decisions

The entities of the decisions are read as models with different names, which
are linked. A project without usable entities has the models of its pattern.
-/

namespace Decisions

variable {d : Decisions} {m : Model}

/-- The models that the entities are read as, not linked yet. -/
def entityModels (d : Decisions) : List Model :=
  match d.get? "entities" with
  | some (.list items) => firstOfName (items.filterMap entity?)
  | _ => []

theorem entities?_eq (d : Decisions) :
    d.entities? = if d.entityModels = [] then none else some (Schema.link d.entityModels) := by
  rw [entities?, entityModels]
  cases d.get? "entities" with
  | none => rfl
  | some item =>
      cases item with
      | list items =>
          dsimp only
          split
          · next hnone => rw [if_pos hnone]
          · next hsome => rw [if_neg hsome]
      | _ => rfl

theorem eq_str_of_name? {item? : Option Datum} {name : String} (h : name? item? = some name) :
    item? = some (.str name) := by
  unfold name? at h
  split at h
  · split at h
    · cases h
      rfl
    · cases h
  · cases h

/-- A model that is read is made from an entity with a name. -/
theorem exists_entity_of_mem (h : m ∈ d.entityModels) :
    ∃ items spec name, d.get? "entities" = some (.list items) ∧ spec ∈ items ∧
      name? (spec.item? "name") = some name ∧
      m = .make name (fields (spec.item? "fields")) (names (spec.item? "belongsTo"))
        (names (spec.item? "hasMany")) [AccessRule.owner.text] := by
  unfold entityModels at h
  split at h
  · next items hitems =>
      obtain ⟨spec, hspec, hentity⟩ := List.mem_filterMap.mp (mem_of_mem_firstOfName h)
      unfold entity? at hentity
      split at hentity
      · cases hentity
      · obtain ⟨name, hname, rfl⟩ := Option.map_eq_some_iff.mp hentity
        exact ⟨items, spec, name, hitems, hspec, hname, rfl⟩
  · cases h

/-- The names of the entities and that of the one entity are in ASCII where they are texts. -/
structure PlainNames (d : Decisions) : Prop where
  entities : ∀ items, d.get? "entities" = some (.list items) →
    ∀ spec ∈ items, ∀ name, spec.item? "name" = some (.str name) → Text.Ascii name.toList
  entityName : ∀ name, d.get? "entityName" = some (.str name) → Text.Ascii name.toList

theorem PlainNames.plainName_of_mem (h : d.PlainNames) (hm : m ∈ d.entityModels) :
    ∃ name, Model.PlainName name ∧ m.name = Words.pascal name := by
  obtain ⟨items, spec, name, hitems, hspec, hname, rfl⟩ := exists_entity_of_mem hm
  refine ⟨name, ⟨?_, hasWord_of_name? hname⟩, name_make _ _ _ _ _⟩
  exact h.entities items hitems spec hspec name (eq_str_of_name? hname)

/-- The foreign keys for models with ASCII names are in camel case. -/
theorem PlainNames.keyInCamel (h : d.PlainNames) (hm : m ∈ d.entityModels) :
    Model.KeyInCamel m.name := by
  obtain ⟨name, hplain, hname⟩ := h.plainName_of_mem hm
  exact hname ▸ hplain.keyInCamel

/-! ## One model to a name -/

theorem nodup_foldl_addNew {models done : List Model} (h : (done.map (·.name)).Nodup) :
    ((models.foldl addNew done).map (·.name)).Nodup := by
  induction models generalizing done with
  | nil => exact h
  | cons m models ih =>
      refine ih ?_
      rw [addNew]
      split
      · exact h
      · next hnew =>
          rw [List.map_append, List.map_singleton, ← List.concat_eq_append]
          refine h.concat fun hthere => hnew ?_
          obtain ⟨n, hn, hname⟩ := List.mem_map.mp hthere
          exact List.any_eq_true.mpr ⟨n, hn, beq_iff_eq.mpr hname⟩

theorem nodup_entityModels (d : Decisions) : (d.entityModels.map (·.name)).Nodup := by
  unfold entityModels
  split
  · exact nodup_foldl_addNew .nil
  · exact .nil

end Decisions

end Scaffold
