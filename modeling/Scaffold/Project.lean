import Scaffold.Context
import Scaffold.Decisions

namespace Scaffold

/-!
# Projects

A project is what a pattern makes of the decisions: data models, sign-in,
storage, components and features. Templates see it as a context.
-/

/-- A project name in the spellings that templates use. -/
structure ProjectName where
  name : String
  deriving DecidableEq, Repr

namespace ProjectName

def kebab (n : ProjectName) : String := Words.kebab n.name

def snake (n : ProjectName) : String := Words.snake n.name

def pascal (n : ProjectName) : String := Words.pascal n.name

def camel (n : ProjectName) : String := Words.camel n.name

end ProjectName

/-- How users sign in. -/
structure Auth where
  socialProviders : List String
  mfa : Bool
  groups : List String
  deriving DecidableEq, Repr

namespace Auth

/-- Sign-in by email alone. -/
def plain : Auth := ⟨[], false, []⟩

/-- The sign-in that decisions ask for, with the providers and groups of a pattern where they say
nothing. -/
def ofDecisions (d : Decisions) (socialProviders groups : List String) : Auth where
  socialProviders := d.textList "socialProviders" socialProviders
  mfa := d.flag "mfa" false
  groups := d.textList "userGroups" groups

def hasSocial (a : Auth) : Bool :=
  !a.socialProviders.isEmpty

def toValue (a : Auth) : Value :=
  .map [("strategy", .str (if a.hasSocial then "email+social" else "email")),
    ("loginWithEmail", .bool true), ("socialProviders", .list (a.socialProviders.map .str)),
    ("mfa", .bool a.mfa), ("groups", .list (a.groups.map .str))]

end Auth

/-- A path of a storage bucket and who may use it. -/
structure StoragePath where
  path : String
  access : List String
  deriving DecidableEq, Repr

/-- A storage bucket. -/
structure Storage where
  bucketName : String
  paths : List StoragePath
  deriving DecidableEq, Repr

namespace Storage

def toValue (s? : Option Storage) : Value :=
  let s := s?.getD ⟨"", []⟩
  .map [("needed", .bool s?.isSome), ("bucketName", .str s.bucketName),
    ("paths", .list (s.paths.map fun p =>
      .map [("path", .str p.path), ("access", .list (p.access.map .str))]))]

end Storage

/-- What a component of the user interface shows. -/
inductive ComponentKind
  | list
  | form
  | detail
  | feed
  | chart
  | editor
  | cart
  | layout
  | button
  deriving DecidableEq, Repr

namespace ComponentKind

def name : ComponentKind → String
  | .list => "list"
  | .form => "form"
  | .detail => "detail"
  | .feed => "feed"
  | .chart => "chart"
  | .editor => "editor"
  | .cart => "cart"
  | .layout => "layout"
  | .button => "button"

def ofName? (s : String) : Option ComponentKind :=
  [list, form, detail, feed, chart, editor, cart, layout, button].find? (·.name == s)

def unknownMessage (s : String) : String :=
  s!"{Text.quote s} is not a valid ComponentKind"

end ComponentKind

/-- A component of the user interface, perhaps for one model. -/
structure Component where
  name : String
  kind : ComponentKind
  model : Option String
  deriving DecidableEq, Repr

namespace Component

/-- A component with its name in Pascal case. -/
def make (name : String) (kind : ComponentKind) (model : Option String) : Component :=
  ⟨Words.pascal name, kind, model⟩

def toValue (c : Component) : Value :=
  .map ([("name", .str c.name), ("kind", .str c.kind.name)]
    ++ (c.model.map fun m => ("model", Value.str m)).toList
    ++ [("fileName", .str (c.name ++ ".tsx"))])

/-- A list, a form and a detail view for each model. -/
def crud (models : List Model) : List Component :=
  models.flatMap fun m =>
    [ make (m.name ++ "List") .list (some m.name)
    , make (m.name ++ "Form") .form (some m.name)
    , make (m.name ++ "Detail") .detail (some m.name) ]

end Component

/-- All that templates can ask about a project. -/
structure Project where
  pattern : String
  name : ProjectName
  description : String := ""
  models : List Model := []
  auth : Auth := .plain
  storage : Option Storage := none
  components : List Component := []
  features : List String := []
  socialAuth : Bool := false
  realTime : Bool := false
  paymentProvider : Option String := none
  richText : Bool := false
  charts : Bool := false
  search : Bool := false
  mfa : Bool := false
  warnings : List String := []

namespace Project

def toContext (p : Project) : Context where
  entries :=
    [ ("pattern", .str p.pattern)
    , ("projectName", .str p.name.name)
    , ("projectNameKebab", .str p.name.kebab)
    , ("projectNameSnake", .str p.name.snake)
    , ("projectNamePascal", .str p.name.pascal)
    , ("projectNameCamel", .str p.name.camel)
    , ("description", .str p.description)
    , ("models", .list (p.models.map Model.toValue))
    , ("auth", p.auth.toValue)
    , ("storage", Storage.toValue p.storage)
    , ("components", .list (p.components.map Component.toValue))
    , ("features", .list (p.features.map .str))
    , ("socialAuth", .bool p.socialAuth)
    , ("realTimeSubscriptions", .bool p.realTime)
    , ("storageNeeded", .bool p.storage.isSome)
    , ("payments", .bool p.paymentProvider.isSome) ]
    ++ (p.paymentProvider.map fun s => ("paymentProvider", Value.str s)).toList
    ++ [ ("richText", .bool p.richText)
       , ("charts", .bool p.charts)
       , ("search", .bool p.search)
       , ("mfa", .bool p.mfa)
       , ("_warnings", .list (p.warnings.map .str)) ]

end Project

end Scaffold
