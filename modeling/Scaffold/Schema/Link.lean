import Scaffold.Schema.Model

namespace Scaffold.Schema

/-!
# Linking models

Linking makes every relationship two-sided: relationships with unknown
targets are dropped, and where a target does not point back it gets the
inverse relationship, with a foreign key if it needs one.
-/

/-- A model put in the place of the one with its name, else at the end. -/
def put (m : Model) : List Model → List Model
  | [] => [m]
  | n :: rest => if n.name == m.name then m :: rest else n :: put m rest

/-- The models with one model to a name: the last one, in the place of the first. -/
def distinct (models : List Model) : List Model :=
  models.foldl (fun done m => put m done) []

def find? (models : List Model) (name : String) : Option Model :=
  models.find? (·.name == name)

def knows (models : List Model) (name : String) : Bool :=
  models.any (·.name == name)

/-- The models without the relationships to unknown targets. -/
def dropUnknown (models : List Model) : List Model :=
  models.map fun m => { m with relationships := m.relationships.filter (knows models ·.target) }

/-- The relationship that a target has back to the model `owner`. -/
def inverse (owner : Model) (r : Relationship) : Relationship where
  kind := r.kind.inverse
  name :=
    match r.kind with
    | .hasMany => owner.camel
    | .belongsTo => Words.camel owner.plural
  target := owner.name
  field := r.field

/-- Does the model have a relationship of this kind to that target? -/
def pointsTo (m : Model) (kind : RelationshipKind) (target : String) : Bool :=
  m.relationships.any fun r => r.kind == kind && r.target == target

/-- A target that points back along a relationship of `owner`. -/
def pointBack (owner : Model) (r : Relationship) (target : Model) : Model :=
  if pointsTo target r.kind.inverse owner.name then target
  else
    let keyed := if r.kind = .hasMany then target.withKey r.field else target
    keyed.withRelationship (inverse owner r)

/-- The models with an inverse for one relationship of `owner`. -/
def linkOne (owner : Model) (models : List Model) (r : Relationship) : List Model :=
  models.map fun m => if m.name == r.target then pointBack owner r m else m

/-- The models with inverses for the relationships that the model of a name has by then. -/
def linkFrom (models : List Model) (name : String) : List Model :=
  match find? models name with
  | some owner => owner.relationships.foldl (linkOne owner) models
  | none => models

/-- The models with all relationships two-sided. -/
def link (models : List Model) : List Model :=
  let known := dropUnknown (distinct models)
  (known.map (·.name)).foldl linkFrom known

end Scaffold.Schema
