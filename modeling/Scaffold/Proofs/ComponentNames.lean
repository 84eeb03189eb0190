import Scaffold.Proofs.ContextShape
import Scaffold.Proofs.EntityModels

namespace Scaffold

/-!
# Names of components

A component is named after its model, with what it is for behind that. The
whole is put in Pascal case once more, which finds the humps of the model's
name and those of the ending again and changes nothing. So components differ
when their models do, or when the endings differ.
-/

namespace Words

open Text

variable {name ending : String}

/-- Humps, of which the first does not begin with a lowercase letter. -/
def InPascal (name : String) : Prop :=
  ∃ c s, name = String.ofList (c :: s) ∧ Humped (c :: s) ∧ c.isLower = false

theorem inPascal_pascal (hascii : Ascii name.toList) (hword : hasWord name = true) :
    InPascal (pascal name) := by
  have hwords : ∀ word ∈ split name, IsWord name.toList word := fun word hw =>
    isWord_of_mem_splitChars hw
  obtain ⟨hhumped, hhead⟩ := humped_flatMap_capitalize hascii hwords
  obtain ⟨c, s, hpascal, -⟩ := exists_pascal hascii hword
  have hchars : (split name).flatMap capitalize = c :: s := String.ofList_injective hpascal
  rw [hchars] at hhumped hhead
  exact ⟨c, s, hpascal, hhumped, hhead c rfl⟩

theorem InPascal.append (hname : InPascal name) (hending : InPascal ending) :
    InPascal (name ++ ending) := by
  obtain ⟨c, s, rfl, hhumped, hupper⟩ := hname
  obtain ⟨d, t, rfl, hhumped', hupper'⟩ := hending
  refine ⟨c, s ++ d :: t, String.ofList_append.symm, hhumped.append hhumped' ?_, hupper⟩
  rintro _ ⟨⟩
  exact hupper'

/-- A name that is in Pascal case stays as it is. -/
theorem InPascal.pascal_eq (h : InPascal name) : pascal name = name := by
  obtain ⟨c, s, rfl, hhumped, hupper⟩ := h
  have halnum : ∀ x ∈ c :: s, isAlphanumeric x = true := by
    intro x hx
    rw [isAlphanumeric_of_ascii (hhumped.ascii x hx)]
    exact hhumped.alphanum x hx
  rw [pascal, Spelling.respell, Spelling.join, split, String.toList_ofList,
    splitChars_of_alphanumeric (List.cons_ne_nil _ _) halnum, hhumped.flatMap_capitalize,
    Char.toUpper_eq_of_not_isLower (Bool.eq_false_iff.mp hupper)]

end Words

namespace Component

/-- What the names of a list, a form and a detail view end in. -/
def endings : List String := ["List", "Form", "Detail"]

theorem inPascal_of_mem_endings : ∀ ending ∈ endings, Words.InPascal ending := by
  have hwords : ∀ ending ∈ endings, Text.Ascii ending.toList ∧ Words.hasWord ending = true ∧
      Words.pascal ending = ending := by
    decide +kernel
  intro ending hending
  obtain ⟨hascii, hword, hpascal⟩ := hwords ending hending
  exact hpascal ▸ Words.inPascal_pascal hascii hword

theorem names_crud {models : List Model} (h : ∀ m ∈ models, Words.InPascal m.name) :
    (crud models).map (·.name) = (models.map (·.name)).flatMap fun name =>
      endings.map (name ++ ·) := by
  rw [crud, List.map_flatMap, List.flatMap_map]
  refine List.flatMap_congr fun m hm => ?_
  have hmade (ending : String) (hending : ending ∈ endings) :
      Words.pascal (m.name ++ ending) = m.name ++ ending :=
    ((h m hm).append (inPascal_of_mem_endings ending hending)).pascal_eq
  simp [make, endings, hmade "List" (by decide), hmade "Form" (by decide),
    hmade "Detail" (by decide)]

/-- The ending of a name can be told from its last letter. -/
theorem append_ending_inj {a b x y : String} (hx : x ∈ endings) (hy : y ∈ endings)
    (h : a ++ x = b ++ y) : a = b ∧ x = y := by
  have hlast : ∀ ending ∈ endings, ∀ name : String,
      (name ++ ending).toList.getLast? = ending.toList.getLast? := by
    intro ending hending name
    rw [String.toList_append, List.getLast?_append_of_ne_nil]
    exact (show ∀ ending ∈ endings, ending.toList ≠ [] by decide) ending hending
  have hletters : ∀ x ∈ endings, ∀ y ∈ endings,
      x.toList.getLast? = y.toList.getLast? → x = y := by
    decide
  have hsame : x = y := by
    refine hletters x hx y hy ?_
    rw [← hlast x hx a, ← hlast y hy b, h]
  subst hsame
  exact ⟨(String.append_left_inj x).mp h, rfl⟩

theorem nodup_flatMap_endings {names : List String} (h : names.Nodup) :
    (names.flatMap fun name => endings.map (name ++ ·)).Nodup := by
  refine List.nodup_flatMap.mpr ⟨fun name _ => ?_, h.imp fun {a b} hne => ?_⟩
  · exact List.Nodup.map (fun x y heq => (String.append_right_inj name).mp heq) (by decide)
  · refine List.disjoint_left.mpr fun s ha hb => hne ?_
    obtain ⟨x, hx, rfl⟩ := List.mem_map.mp ha
    obtain ⟨y, hy, heq⟩ := List.mem_map.mp hb
    exact (append_ending_inj hy hx heq).1.symm

end Component

namespace Decisions

theorem PlainNames.inPascal_entityModels {d : Decisions} (h : d.PlainNames) :
    ∀ m ∈ d.entityModels, Words.InPascal m.name := by
  intro m hm
  obtain ⟨name, ⟨hascii, hword⟩, hname⟩ := h.plainName_of_mem hm
  exact hname ▸ Words.inPascal_pascal hascii hword

theorem exists_str_of_text? {d : Decisions} {key text : String} (h : d.text? key = some text) :
    ∃ s, d.get? key = some (.str s) ∧ text = String.ofList (Text.trim s.toList) := by
  unfold text? at h
  split at h
  · next s hs =>
      dsimp only at h
      split at h
      · cases h
      · exact ⟨s, hs, (Option.some.inj h).symm⟩
  · cases h

theorem PlainNames.inPascal_entityName {d : Decisions} (h : d.PlainNames) :
    Words.InPascal (Words.pascal d.entityName) := by
  have hitem : Words.InPascal (Words.pascal "Item") :=
    Words.inPascal_pascal (by decide) (by decide +kernel)
  rw [Decisions.entityName]
  split
  · next text htext =>
      split
      · next hword =>
          obtain ⟨s, hs, rfl⟩ := exists_str_of_text? htext
          refine Words.inPascal_pascal ?_ hword
          rw [String.toList_ofList]
          exact fun c hc => h.entityName s hs c (Text.mem_of_mem_trim hc)
      · exact hitem
  · exact hitem

end Decisions

namespace Blueprint

variable {b : Blueprint} {d : Decisions}

theorem eq_simpleCrud_or_nodup (h : b ∈ builtIn) :
    b = simpleCrud ∨ b.name ≠ "simple_crud" ∧
      ∀ models stores, ((b.components models stores).map (·.name)).Nodup := by
  simp only [builtIn, List.mem_cons, List.not_mem_nil, or_false] at h
  -- the components of all but the last do not depend on the models
  rcases h with rfl | rfl | rfl | rfl | rfl
  · refine .inr ⟨by decide, fun models stores => ?_⟩
    dsimp only [socialPlatform, List.map]
    decide +kernel
  · refine .inr ⟨by decide, fun models stores => ?_⟩
    dsimp only [eCommerce, List.map]
    decide +kernel
  · refine .inr ⟨by decide, fun models stores => ?_⟩
    dsimp only [contentManagement]
    revert stores
    decide +kernel
  · refine .inr ⟨by decide, fun models stores => ?_⟩
    dsimp only [dashboardAnalytics, List.map]
    decide +kernel
  · exact .inl rfl

/-- The models for plain forms have different names, in Pascal case. -/
theorem models_simpleCrud (h : d.PlainNames) :
    ((simpleCrud.project d).models.map (·.name)).Nodup ∧
      ∀ m ∈ (simpleCrud.project d).models, Words.InPascal m.name := by
  have hmodels : (simpleCrud.project d).models = d.entities?.getD (simpleCrud.ownModels d) := rfl
  rw [hmodels, Decisions.entities?_eq]
  split
  · exact ⟨List.nodup_singleton _, List.forall_mem_singleton.mpr h.inPascal_entityName⟩
  · rw [Option.getD_some, Schema.names_link]
    obtain ⟨hnodup, hmem, -⟩ := Schema.distinct_spec d.entityModels
    refine ⟨hnodup, fun n hn => ?_⟩
    have hname : n.name ∈ (Schema.distinct d.entityModels).map (·.name) := by
      rw [← Schema.names_link]
      exact List.mem_map_of_mem hn
    obtain ⟨m, hm, hsame⟩ := List.mem_map.mp hname
    exact hsame ▸ h.inPascal_entityModels m (hmem m hm)

end Blueprint

/-- The components of a context have different names. Plain forms have a list, a form and a detail
view for each model, named after it. -/
theorem component_names_distinct (config : PatternConfig) (h : config.decisions.PlainNames) :
    ((Builder.standard.build config).value.namesIn "components").Nodup ∧
      ((Builder.standard.build config).get? "pattern" = some (.str "simple_crud") →
        (Builder.standard.build config).value.namesIn "components" =
          ((Builder.standard.build config).value.namesIn "models").flatMap fun name =>
            [name ++ "List", name ++ "Form", name ++ "Detail"]) := by
  obtain ⟨b, hb, warnings, hproject⟩ := Builder.exists_blueprint config.patternName
  have hpattern : (Builder.standard.build config).get? "pattern"
      = some (.str (Builder.standard.project config).pattern) := rfl
  rw [hpattern, Builder.build, Project.namesIn_components, Project.namesIn_models,
    hproject config.decisions]
  rcases Blueprint.eq_simpleCrud_or_nodup hb with rfl | ⟨hname, hnodup⟩
  · obtain ⟨hdistinct, hpascal⟩ := Blueprint.models_simpleCrud h
    have hnames := Component.names_crud hpascal
    refine ⟨?_, fun _ => hnames⟩
    exact hnames ▸ Component.nodup_flatMap_endings hdistinct
  · exact ⟨hnodup _ _, fun heq => absurd (Value.str.inj (Option.some.inj heq)) hname⟩

/-- Entities of which one is called as the list view of another and two have one name in Pascal
case. -/
def todoEntities : List Datum :=
  [.map [(.str "name", .str "todo")], .map [(.str "name", .str "TODO list")],
    .map [(.str "name", .str "v2")], .map [(.str "name", .str "V 2")]]

def todoConfig : PatternConfig :=
  ⟨"no such pattern", ⟨[("entities", .list todoEntities), ("entityName", .str " note ")]⟩⟩

theorem component_names_distinct_example :
    todoConfig.decisions.PlainNames ∧
    (Builder.standard.build todoConfig).get? "pattern" = some (.str "simple_crud") ∧
    (Builder.standard.build todoConfig).value.namesIn "models" = ["Todo", "TodoList", "V2"] ∧
    ((Builder.standard.build todoConfig).value.namesIn "components").Nodup ∧
    (Builder.standard.build todoConfig).value.namesIn "components" =
      ["Todo", "TodoList", "V2"].flatMap fun name =>
        [name ++ "List", name ++ "Form", name ++ "Detail"] := by
  have hplain : todoConfig.decisions.PlainNames := by
    have hentities : todoConfig.decisions.get? "entities" = some (.list todoEntities) := rfl
    have hentity : todoConfig.decisions.get? "entityName" = some (.str " note ") := rfl
    refine ⟨fun items hitems spec hspec name hname => ?_, fun name hname => ?_⟩
    · rw [hentities] at hitems
      cases hitems
      simp only [todoEntities, List.mem_cons, List.not_mem_nil, or_false] at hspec
      rcases hspec with rfl | rfl | rfl | rfl
      all_goals
        cases hname
        decide
    · rw [hentity] at hname
      cases hname
      decide
  have hpattern : (Builder.standard.build todoConfig).get? "pattern"
      = some (.str "simple_crud") :=
    congrArg (some ∘ Value.str)
      (show (Builder.standard.project todoConfig).pattern = "simple_crud" by decide +kernel)
  have hmodels : (Builder.standard.build todoConfig).value.namesIn "models"
      = ["Todo", "TodoList", "V2"] := by
    decide +kernel
  obtain ⟨hnodup, hnames⟩ := component_names_distinct todoConfig hplain
  exact ⟨hplain, hpattern, hmodels, hnodup, hmodels ▸ hnames hpattern⟩

end Scaffold
