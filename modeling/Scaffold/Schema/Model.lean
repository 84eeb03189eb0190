import Scaffold.Text.Blank
import Scaffold.Value
import Scaffold.Words

namespace Scaffold

/-!
# Data models

A schema is a list of models. A model has fields and relationships to
other models; the several spellings of its name follow from the name.
-/

inductive FieldType
  | string
  | integer
  | float
  | boolean
  | datetime
  | email
  | url
  | json
  | id
  deriving DecidableEq, Repr

namespace FieldType

def name : FieldType → String
  | .string => "string"
  | .integer => "integer"
  | .float => "float"
  | .boolean => "boolean"
  | .datetime => "datetime"
  | .email => "email"
  | .url => "url"
  | .json => "json"
  | .id => "id"

/-- The type that generated client code uses. -/
def clientType : FieldType → String
  | .integer | .float => "number"
  | .boolean => "boolean"
  | .json => "Record<string, unknown>"
  | .string | .datetime | .email | .url | .id => "string"

def words : List (String × FieldType) :=
  [ ("str", .string), ("string", .string), ("text", .string)
  , ("int", .integer), ("integer", .integer)
  , ("float", .float), ("number", .float), ("decimal", .float)
  , ("bool", .boolean), ("boolean", .boolean)
  , ("date", .datetime), ("datetime", .datetime), ("timestamp", .datetime)
  , ("email", .email), ("url", .url)
  , ("json", .json), ("object", .json), ("dict", .json)
  , ("id", .id) ]

/-- The type that a word stands for, in any case and with blanks around; a word that stands for
none is taken for text. -/
def ofWord (word : String) : FieldType :=
  (words.lookup (String.ofList (Text.lower (Text.trim word.toList)))).getD .string

end FieldType

structure Field where
  name : String
  type : FieldType
  required : Bool
  deriving DecidableEq, Repr

/-- Which side of a relationship a model is on. -/
inductive RelationshipKind
  | belongsTo
  | hasMany
  deriving DecidableEq, Repr

namespace RelationshipKind

def name : RelationshipKind → String
  | .belongsTo => "belongsTo"
  | .hasMany => "hasMany"

/-- The kind seen from the other model. -/
def inverse : RelationshipKind → RelationshipKind
  | .belongsTo => .hasMany
  | .hasMany => .belongsTo

@[simp] theorem inverse_inverse (k : RelationshipKind) : k.inverse.inverse = k := by
  cases k <;> rfl

end RelationshipKind

/-- A relationship of a model to a target model. The foreign key `field` is a field of the model
that belongs to the other. -/
structure Relationship where
  kind : RelationshipKind
  name : String
  target : String
  field : String
  deriving DecidableEq, Repr

structure Model where
  name : String
  fields : List Field
  relationships : List Relationship
  authorization : List String
  deriving DecidableEq, Repr

/-- What a rule of access to a model says. -/
inductive AccessRule
  | owner
  | authenticatedRead
  | guestRead
  | group (name : String)
  deriving DecidableEq, Repr

def AccessRule.text : AccessRule → String
  | .owner => "allow.owner()"
  | .authenticatedRead => "allow.authenticated().to(['read'])"
  | .guestRead => "allow.guest().to(['read'])"
  | .group name => s!"allow.group('{name}')"

namespace Field

/-- A field with its name in camel case. -/
def make (name : String) (type : FieldType) (required : Bool) : Field :=
  ⟨Words.camel name, type, required⟩

/-- A field that has to be there. -/
def must (name : String) (type : FieldType := .string) : Field :=
  make name type true

/-- A field that may be left out. -/
def may (name : String) (type : FieldType := .string) : Field :=
  make name type false

def toValue (f : Field) : Value :=
  .map [("name", .str f.name), ("type", .str f.type.name), ("tsType", .str f.type.clientType),
    ("required", .bool f.required)]

end Field

namespace Relationship

def toValue (r : Relationship) : Value :=
  .map [("kind", .str r.kind.name), ("name", .str r.name), ("target", .str r.target),
    ("field", .str r.field)]

end Relationship

namespace Model

def plural (m : Model) : String := Words.plural m.name

def camel (m : Model) : String := Words.camel m.name

/-- The name of the foreign key that refers to a model. -/
def keyOf (name : String) : String := Words.camel name ++ "Id"

def hasField (m : Model) (name : String) : Bool :=
  m.fields.any (·.name == name)

/-- The model with a foreign key, unless it has a field of that name. -/
def withKey (m : Model) (key : String) : Model :=
  if m.hasField key then m else { m with fields := m.fields ++ [Field.must key .id] }

def withRelationship (m : Model) (r : Relationship) : Model :=
  { m with relationships := m.relationships ++ [r] }

/-- The model with a relationship to a model that it belongs to, and the foreign key for it. -/
def addOwner (m : Model) (target : String) : Model :=
  let name := Words.pascal target
  (m.withKey (keyOf name)).withRelationship ⟨.belongsTo, Words.camel name, name, keyOf name⟩

/-- The model with a relationship to a model of which it has many. -/
def addMany (m : Model) (target : String) : Model :=
  let name := Words.pascal target
  m.withRelationship ⟨.hasMany, Words.camel (Words.plural name), name, keyOf m.name⟩

/-- A model with the given fields that belongs to the models of one list and has many of those of
another. -/
def make (name : String) (fields : List Field) (belongsTo hasMany : List String)
    (authorization : List String) : Model :=
  hasMany.foldl addMany (belongsTo.foldl addOwner ⟨Words.pascal name, fields, [], authorization⟩)

def toValue (m : Model) : Value :=
  .map [("name", .str m.name), ("namePlural", .str m.plural), ("nameCamel", .str m.camel),
    ("nameKebab", .str (Words.kebab m.name)), ("fields", .list (m.fields.map Field.toValue)),
    ("relationships", .list (m.relationships.map Relationship.toValue)),
    ("authorization", .list (m.authorization.map .str))]

end Model

end Scaffold
