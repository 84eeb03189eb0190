import Scaffold.Proofs.ContextShape
import Scaffold.Proofs.EntityModels

namespace Scaffold

/-!
# References to models

Relationships and components refer to models by name. Relationships are
linked with the models they are in, so their targets are known. Only the
components for plain forms are made from the models of the project. Those of
the other patterns are for models of the pattern, and stay when the entities
replace these.
-/

namespace Component

theorem child?_model (c : Component) :
    c.toValue.child? "model" = .ok (c.model.map Value.str) := by
  obtain ⟨name, kind, _ | model⟩ := c
  · rfl
  · rfl

/-- The entries for models are known names just if the models are. -/
theorem forall_child?_model_iff {components : List Component} {names : List String} :
    (∀ v ∈ components.map toValue, ∀ model, v.child? "model" = .ok (some model) →
        ∃ name ∈ names, model = .str name) ↔
      ∀ name, some name ∈ components.map (·.model) → name ∈ names := by
  constructor
  · intro hknown name hname
    obtain ⟨c, hc, hmodel⟩ := List.mem_map.mp hname
    have hchild : c.toValue.child? "model" = .ok (some (.str name)) := by
      rw [child?_model, hmodel, Option.map_some]
    obtain ⟨known, hmem, heq⟩ := hknown c.toValue (List.mem_map_of_mem hc) _ hchild
    exact Value.str.inj heq ▸ hmem
  · intro hknown v hv model hmodel
    obtain ⟨c, hc, rfl⟩ := List.mem_map.mp hv
    rw [child?_model] at hmodel
    obtain ⟨name, hname, rfl⟩ := Option.map_eq_some_iff.mp (Except.ok.inj hmodel)
    exact ⟨name, hknown name (List.mem_map.mpr ⟨c, hc, hname⟩), rfl⟩

theorem mem_models_crud {models : List Model} {name : String} :
    some name ∈ (crud models).map (·.model) ↔ name ∈ models.map (·.name) := by
  rw [crud, List.map_flatMap, List.mem_flatMap, List.mem_map]
  refine exists_congr fun m => and_congr_right fun _ => ?_
  simp [make, eq_comm]

end Component

namespace Blueprint

variable {b : Blueprint} {d : Decisions} {name : String}

/-- The models that the components of a pattern are for, whatever models the project has. -/
def fixedModels (pattern : String) : List String :=
  match pattern with
  | "social_platform" => ["Post", "Profile", "Comment", "Follow"]
  | "e_commerce" => ["Product", "CartItem", "Order"]
  | "content_management" => ["Article", "Tag"]
  | "dashboard_analytics" => ["Dashboard", "Widget", "Metric", "DataSource"]
  | _ => []

theorem mem_models_components (hb : b ∈ builtIn) (models : List Model) (stores : Bool) :
    some name ∈ (b.components models stores).map (·.model) ↔
      name ∈ fixedModels b.name ∨ b.name = "simple_crud" ∧ name ∈ models.map (·.name) := by
  simp only [builtIn, List.mem_cons, List.not_mem_nil, or_false] at hb
  rcases hb with rfl | rfl | rfl | rfl | rfl
  · simp [socialPlatform, component, Component.make, fixedModels]
  · simp [eCommerce, component, Component.make, fixedModels]
  · cases stores <;>
      simp [contentManagement, component, Component.make, fixedModels]
  · simp [dashboardAnalytics, component, Component.make, fixedModels]
  · refine Component.mem_models_crud.trans ?_
    simp [simpleCrud, fixedModels]

theorem mem_ownModels_of_mem_fixedModels (hb : b ∈ builtIn) (d : Decisions) :
    ∀ name ∈ fixedModels b.name, name ∈ (b.ownModels d).map (·.name) := by
  simp only [builtIn, List.mem_cons, List.not_mem_nil, or_false] at hb
  rcases hb with rfl | rfl | rfl | rfl | rfl
  · dsimp only [socialPlatform]
    decide +kernel
  · dsimp only [eCommerce]
    decide +kernel
  · dsimp only [contentManagement]
    decide +kernel
  · dsimp only [dashboardAnalytics]
    decide +kernel
  · rintro name ⟨⟩

/-- The own models of a pattern are linked, or are one model without relationships. -/
theorem known_ownModels (hb : b ∈ builtIn) (d : Decisions) :
    ∀ m ∈ b.ownModels d, ∀ r ∈ m.relationships, r.target ∈ (b.ownModels d).map (·.name) := by
  simp only [builtIn, List.mem_cons, List.not_mem_nil, or_false] at hb
  rcases hb with rfl | rfl | rfl | rfl | rfl
  · exact Schema.known_link _
  · exact Schema.known_link _
  · exact Schema.known_link _
  · exact Schema.known_link _
  · intro m hm r hr
    obtain rfl := List.mem_singleton.mp hm
    cases hr

theorem known_models (hb : b ∈ builtIn) :
    ∀ m ∈ (b.project d).models, ∀ r ∈ m.relationships,
      r.target ∈ (b.project d).models.map (·.name) := by
  change ∀ m ∈ d.entities?.getD (b.ownModels d), ∀ r ∈ m.relationships,
    r.target ∈ (d.entities?.getD (b.ownModels d)).map (·.name)
  rw [Decisions.entities?_eq]
  split
  · exact known_ownModels hb d
  · exact Schema.known_link _

/-- The names of the models that replace those of the pattern are those of the entities. -/
theorem mem_names_models (h : d.entityModels ≠ []) :
    name ∈ (b.project d).models.map (·.name) ↔ ∃ m ∈ d.entityModels, m.name = name := by
  change name ∈ (d.entities?.getD (b.ownModels d)).map (·.name) ↔ _
  rw [Decisions.entities?_eq, if_neg h, Option.getD_some, Schema.names_link]
  obtain ⟨-, -, hnames⟩ := Schema.distinct_spec d.entityModels
  exact (hnames name).trans List.mem_map

/-- The components of a project are for models that it has if the fixed ones are. -/
theorem components_known_iff (hb : b ∈ builtIn) :
    (∀ name, some name ∈ (b.project d).components.map (·.model) →
        name ∈ (b.project d).models.map (·.name)) ↔
      d.entityModels = [] ∨
        ∀ name ∈ fixedModels b.name, ∃ m ∈ d.entityModels, m.name = name := by
  have hfixed : (∀ name, some name ∈ (b.project d).components.map (·.model) →
      name ∈ (b.project d).models.map (·.name)) ↔
        ∀ name ∈ fixedModels b.name, name ∈ (b.project d).models.map (·.name) := by
    refine forall_congr' fun name => ?_
    refine (imp_congr_left (mem_models_components hb _ _)).trans ?_
    exact ⟨fun h hname => h (.inl hname), fun h hname => hname.elim h And.right⟩
  rw [hfixed]
  by_cases hnone : d.entityModels = []
  · have hmodels : (b.project d).models = b.ownModels d := by
      change d.entities?.getD (b.ownModels d) = b.ownModels d
      rw [Decisions.entities?_eq, if_pos hnone, Option.getD_none]
    exact iff_of_true (hmodels ▸ mem_ownModels_of_mem_fixedModels hb d) (.inl hnone)
  · rw [or_iff_right hnone]
    exact forall₂_congr fun name _ => mem_names_models hnone

end Blueprint

/-- The targets of relationships are models of the context. The models of components are just if
no entities replace the models, or if these give again all that the pattern has components for. -/
theorem model_references_known_iff (config : PatternConfig) :
    ∃ pattern models components,
      (Builder.standard.build config).get? "pattern" = some (.str pattern) ∧
      (Builder.standard.build config).get? "models" = some (.list models) ∧
      (Builder.standard.build config).get? "components" = some (.list components) ∧
      (∀ m ∈ models, ∃ relationships,
        m.child? "relationships" = .ok (some (.list relationships)) ∧
        ∀ r ∈ relationships,
          ∃ target ∈ (Builder.standard.build config).value.namesIn "models",
            r.child? "target" = .ok (some (.str target))) ∧
      ((∀ c ∈ components, ∀ model, c.child? "model" = .ok (some model) →
          ∃ name ∈ (Builder.standard.build config).value.namesIn "models", model = .str name) ↔
        config.decisions.entityModels = [] ∨
          ∀ name ∈ Blueprint.fixedModels pattern,
            ∃ m ∈ config.decisions.entityModels, m.name = name) := by
  obtain ⟨b, hb, warnings, hproject⟩ := Builder.exists_blueprint config.patternName
  have hcontext : Builder.standard.build config
      = Project.toContext { b.project config.decisions with
          warnings := (b.project config.decisions).warnings ++ warnings } :=
    congrArg Project.toContext (hproject config.decisions)
  have hnames : (Builder.standard.build config).value.namesIn "models"
      = (b.project config.decisions).models.map (·.name) := by
    rw [hcontext, Project.namesIn_models]
  refine ⟨b.name, (b.project config.decisions).models.map Model.toValue,
    (b.project config.decisions).components.map Component.toValue, hcontext ▸ rfl, hcontext ▸ rfl,
    hcontext ▸ rfl, ?_, ?_⟩
  · intro v hv
    obtain ⟨m, hm, rfl⟩ := List.mem_map.mp hv
    refine ⟨m.relationships.map Relationship.toValue, rfl, fun v hv => ?_⟩
    obtain ⟨r, hr, rfl⟩ := List.mem_map.mp hv
    exact ⟨r.target, hnames ▸ Blueprint.known_models hb m hm r hr, rfl⟩
  · rw [hnames]
    exact Component.forall_child?_model_iff.trans (Blueprint.components_known_iff hb)

def taskConfig : PatternConfig :=
  ⟨"social_platform", ⟨[("entities", .list [.map [(.str "name", .str "Task")]])]⟩⟩

/-- A project that has tasks alone shows a feed of posts. -/
theorem component_for_missing_model :
    ∃ components,
      (Builder.standard.build taskConfig).get? "components" = some (.list components) ∧
      (∃ c ∈ components, c.child? "model" = .ok (some (.str "Post"))) ∧
      (Builder.standard.build taskConfig).value.namesIn "models" = ["Task"] := by
  refine ⟨(Builder.standard.project taskConfig).components.map Component.toValue, rfl, ?_,
    by decide +kernel⟩
  have hfeed : Blueprint.component "Feed" .feed "Post" ∈
      (Builder.standard.project taskConfig).components := by
    decide +kernel
  exact ⟨_, List.mem_map_of_mem hfeed, rfl⟩

end Scaffold
