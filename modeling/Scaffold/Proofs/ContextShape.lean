import Scaffold.Project
import Scaffold.Proofs.Shapes

namespace Scaffold

/-!
# The shape of contexts

Whatever project it is of, a context has the same entries of the same
shapes. Only the provider of payments and the model of a component may be
missing.
-/

open Shape

namespace Field

def shape : Shape :=
  .always "name" .str <| .always "type" .str <| .always "tsType" .str <|
    .always "required" .bool .record

theorem fits_shape (f : Field) : shape.Fits f.toValue :=
  fits_always rfl (fits_str _) <| fits_always rfl (fits_str _) <| fits_always rfl (fits_str _) <|
    fits_always rfl (fits_bool _) <| fits_record _

end Field

namespace Relationship

def shape : Shape :=
  .always "kind" .str <| .always "name" .str <| .always "target" .str <|
    .always "field" .str .record

theorem fits_shape (r : Relationship) : shape.Fits r.toValue :=
  fits_always rfl (fits_str _) <| fits_always rfl (fits_str _) <| fits_always rfl (fits_str _) <|
    fits_always rfl (fits_str _) <| fits_record _

end Relationship

namespace Model

def shape : Shape :=
  .always "name" .str <| .always "namePlural" .str <| .always "nameCamel" .str <|
    .always "nameKebab" .str <| .always "fields" (.list Field.shape) <|
    .always "relationships" (.list Relationship.shape) <|
    .always "authorization" (.list .str) .record

theorem fits_shape (m : Model) : shape.Fits m.toValue :=
  fits_always rfl (fits_str _) <| fits_always rfl (fits_str _) <| fits_always rfl (fits_str _) <|
    fits_always rfl (fits_str _) <| fits_always rfl (fits_list Field.fits_shape _) <|
    fits_always rfl (fits_list Relationship.fits_shape _) <|
    fits_always rfl (fits_list fits_str _) <| fits_record _

end Model

namespace Auth

def shape : Shape :=
  .always "strategy" .str <| .always "loginWithEmail" .bool <|
    .always "socialProviders" (.list .str) <| .always "mfa" .bool <|
    .always "groups" (.list .str) .record

theorem fits_shape (a : Auth) : shape.Fits a.toValue :=
  fits_always rfl (fits_str _) <| fits_always rfl (fits_bool _) <|
    fits_always rfl (fits_list fits_str _) <| fits_always rfl (fits_bool _) <|
    fits_always rfl (fits_list fits_str _) <| fits_record _

end Auth

namespace Storage

def pathShape : Shape :=
  .always "path" .str <| .always "access" (.list .str) .record

def shape : Shape :=
  .always "needed" .bool <| .always "bucketName" .str <|
    .always "paths" (.list pathShape) .record

theorem fits_shape (s? : Option Storage) : shape.Fits (toValue s?) := by
  refine fits_always rfl (fits_bool _) <| fits_always rfl (fits_str _) <|
    fits_always rfl (fits_list ?_ _) <| fits_record _
  intro p
  exact fits_always rfl (fits_str _) <| fits_always rfl (fits_list fits_str _) <| fits_record _

end Storage

namespace Component

def shape : Shape :=
  .always "name" .str <| .always "kind" .str <| .perhaps "model" .str <|
    .always "fileName" .str .record

theorem fits_shape (c : Component) : shape.Fits c.toValue := by
  obtain ⟨name, kind, _ | model⟩ := c
  · refine fits_always rfl (fits_str _) <| fits_always rfl (fits_str _) <| fits_perhaps ?_ <|
      fits_always rfl (fits_str _) <| fits_record _
    intro w hw
    cases hw
  · refine fits_always rfl (fits_str _) <| fits_always rfl (fits_str _) <| fits_perhaps ?_ <|
      fits_always rfl (fits_str _) <| fits_record _
    intro w hw
    cases hw
    exact fits_str model

end Component

namespace Project

/-- The entries that follow the provider of payments. -/
def restShape : Shape :=
  .always "richText" .bool <| .always "charts" .bool <| .always "search" .bool <|
    .always "mfa" .bool <| .always "_warnings" (.list .str) .record

def shape : Shape :=
  .always "pattern" .str <| .always "projectName" .str <| .always "projectNameKebab" .str <|
    .always "projectNameSnake" .str <| .always "projectNamePascal" .str <|
    .always "projectNameCamel" .str <| .always "description" .str <|
    .always "models" (.list Model.shape) <| .always "auth" Auth.shape <|
    .always "storage" Storage.shape <| .always "components" (.list Component.shape) <|
    .always "features" (.list .str) <| .always "socialAuth" .bool <|
    .always "realTimeSubscriptions" .bool <| .always "storageNeeded" .bool <|
    .always "payments" .bool <| .perhaps "paymentProvider" .str restShape

theorem fits_restShape (p : Project) : restShape.Fits p.toContext.value := by
  obtain ⟨_, _, _, _, _, _, _, _, _, _, _ | provider, _, _, _, _, _⟩ := p
  all_goals
    exact fits_always rfl (fits_bool _) <| fits_always rfl (fits_bool _) <|
      fits_always rfl (fits_bool _) <| fits_always rfl (fits_bool _) <|
      fits_always rfl (fits_list fits_str _) <| fits_record _

theorem fits_shape (p : Project) : shape.Fits p.toContext.value := by
  refine fits_always rfl (fits_str _) <| fits_always rfl (fits_str _) <|
    fits_always rfl (fits_str _) <| fits_always rfl (fits_str _) <|
    fits_always rfl (fits_str _) <| fits_always rfl (fits_str _) <|
    fits_always rfl (fits_str _) <| fits_always rfl (fits_list Model.fits_shape _) <|
    fits_always rfl p.auth.fits_shape <| fits_always rfl (Storage.fits_shape p.storage) <|
    fits_always rfl (fits_list Component.fits_shape _) <|
    fits_always rfl (fits_list fits_str _) <| fits_always rfl (fits_bool _) <|
    fits_always rfl (fits_bool _) <| fits_always rfl (fits_bool _) <|
    fits_always rfl (fits_bool _) <| fits_perhaps ?_ p.fits_restShape
  obtain ⟨_, _, _, _, _, _, _, _, _, _, _ | provider, _, _, _, _, _⟩ := p
  · intro w hw
    cases hw
  · intro w hw
    cases hw
    exact fits_str provider

end Project

/-! ## Names in a context -/

namespace Value

/-- The text that stands under a name in a map. -/
def textAt? (key : String) : Value → Option String
  | .map entries =>
    match entries.lookup key with
    | some (.str s) => some s
    | _ => none
  | _ => none

/-- The names of the items in the list that stands under a name in a map. -/
def namesIn (key : String) : Value → List String
  | .map entries =>
    match entries.lookup key with
    | some (.list items) => items.filterMap (textAt? "name")
    | _ => []
  | _ => []

theorem filterMap_textAt?_map {α : Type} {f : α → Value} {name : α → String}
    (h : ∀ x, (f x).textAt? "name" = some (name x)) (items : List α) :
    (items.map f).filterMap (textAt? "name") = items.map name := by
  induction items with
  | nil => rfl
  | cons x items ih => simp [h, ih]

end Value

theorem Model.namesIn_fields (m : Model) :
    m.toValue.namesIn "fields" = m.fields.map (·.name) :=
  Value.filterMap_textAt?_map (fun _ => rfl) m.fields

theorem Model.namesIn_relationships (m : Model) :
    m.toValue.namesIn "relationships" = m.relationships.map (·.name) :=
  Value.filterMap_textAt?_map (fun _ => rfl) m.relationships

namespace Project

theorem namesIn_models (p : Project) :
    p.toContext.value.namesIn "models" = p.models.map (·.name) :=
  Value.filterMap_textAt?_map (fun _ => rfl) p.models

theorem namesIn_components (p : Project) :
    p.toContext.value.namesIn "components" = p.components.map (·.name) :=
  Value.filterMap_textAt?_map (fun _ => rfl) p.components

end Project

end Scaffold
