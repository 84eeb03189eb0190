import Scaffold.Project

namespace Scaffold

/-!
# Blueprints

A blueprint is an architecture pattern as data: its own models for a
project that lists no entities, its components, and what it takes for
granted where the decisions say nothing.
-/

/-- Storage that a pattern offers: the decision that asks for it, whether it is there by default,
and its one path. -/
structure StorageOffer where
  decision : String
  byDefault : Bool
  path : StoragePath

/-- An architecture pattern. -/
structure Blueprint where
  name : String
  /-- The models of a project that lists no entities. -/
  ownModels : Decisions → List Model
  socialProviders : List String := []
  groups : List String := []
  storage : StorageOffer
  /-- The components for given models, with or without storage. -/
  components : List Model → Bool → List Component
  realTime : Bool := false
  payments : Bool := false
  richText : Bool := false
  charts : Bool := false
  search : Bool := false

namespace Blueprint

/-- What a project can do, in words. -/
def features (b : Blueprint) (auth : Auth) (realTime storage search : Bool)
    (paymentProvider : Option String) : List String :=
  ["Email sign-in"]
    ++ auth.socialProviders.map
      (fun s => String.ofList (Text.capitalize s.toList) ++ " sign-in")
    ++ (if auth.mfa then ["Multi-factor authentication"] else [])
    ++ (if realTime then ["Real-time subscriptions"] else [])
    ++ (if storage then ["File storage"] else [])
    ++ (paymentProvider.map fun s => s!"Payments ({s})").toList
    ++ (if b.richText then ["Rich text editing"] else [])
    ++ (if b.charts then ["Charts and visualisations"] else [])
    ++ (if search then ["Full-text search"] else [])

def project (b : Blueprint) (d : Decisions) : Project :=
  let name : ProjectName := ⟨d.projectName⟩
  let models := d.entities?.getD (b.ownModels d)
  let auth := Auth.ofDecisions d b.socialProviders b.groups
  let stores := d.flag b.storage.decision b.storage.byDefault
  let realTime := d.flag "realTime" b.realTime
  let search := d.flag "search" b.search
  let provider := (d.text? "paymentProvider").getD "stripe"
  let paymentProvider :=
    if b.payments then some (String.ofList (Text.lower provider.toList)) else none
  { pattern := b.name
    name := name
    description := (d.text? "description").getD ""
    models := models
    auth := auth
    storage := if stores then some ⟨name.camel ++ "Files", [b.storage.path]⟩ else none
    components := b.components models stores
    features := b.features auth realTime stores search paymentProvider
    socialAuth := auth.hasSocial
    realTime := realTime
    paymentProvider := paymentProvider
    richText := b.richText
    charts := b.charts
    search := search
    mfa := auth.mfa }

def model (name : String) (fields : List Field) (belongsTo hasMany : List String := [])
    (rules : List AccessRule := [.owner]) : Model :=
  Model.make name fields belongsTo hasMany (rules.map AccessRule.text)

def component (name : String) (kind : ComponentKind) (model : String) : Component :=
  Component.make name kind (some model)

/-- User profiles, posts, comments, likes and follows with a live feed. -/
def socialPlatform : Blueprint where
  name := "social_platform"
  ownModels _ :=
    let rules := [.owner, .authenticatedRead]
    Schema.link
      [ model "Profile"
          [Field.must "displayName", Field.may "bio", Field.may "avatarUrl" .url]
          [] ["Post", "Comment"] rules
      , model "Post" [Field.must "content", Field.may "mediaUrl" .url]
          ["Profile"] ["Comment", "Like"] rules
      , model "Comment" [Field.must "content"] ["Post", "Profile"] [] rules
      , model "Like" [] ["Post"] [] rules
      , model "Follow" [Field.must "followerId" .id, Field.must "followingId" .id] [] [] rules ]
  socialProviders := ["google"]
  storage :=
    { decision := "mediaUploads"
      byDefault := true
      path :=
        { path := "media/\x7bentity_id\x7d/*"
          access :=
            [ "allow.entity('identity').to(['read', 'write', 'delete'])"
            , "allow.authenticated.to(['read'])" ] } }
  components _ _ :=
    [ component "Feed" .feed "Post"
    , component "PostComposer" .form "Post"
    , component "ProfileCard" .detail "Profile"
    , component "CommentList" .list "Comment"
    , component "FollowButton" .button "Follow" ]
  realTime := true

/-- Catalogue, cart, orders and payment. -/
def eCommerce : Blueprint where
  name := "e_commerce"
  ownModels _ :=
    let catalogue := [.guestRead, .authenticatedRead, .group "admin"]
    let orders := [.owner, .group "admin"]
    Schema.link
      [ model "Category" [Field.must "name"] [] ["Product"] catalogue
      , model "Product"
          [ Field.must "name", Field.may "description", Field.must "price" .float
          , Field.must "stock" .integer, Field.may "imageUrl" .url ]
          ["Category"] [] catalogue
      , model "CartItem" [Field.must "quantity" .integer] ["Product"]
      , model "Order" [Field.must "status", Field.must "total" .float] [] ["OrderItem"] orders
      , model "OrderItem" [Field.must "quantity" .integer, Field.must "unitPrice" .float]
          ["Order", "Product"] [] orders ]
  groups := ["admin"]
  storage :=
    { decision := "mediaUploads"
      byDefault := true
      path :=
        { path := "product-images/*"
          access :=
            [ "allow.guest.to(['read'])"
            , "allow.groups(['admin']).to(['read', 'write', 'delete'])" ] } }
  components _ _ :=
    [ component "ProductGrid" .list "Product"
    , component "ProductDetail" .detail "Product"
    , component "Cart" .cart "CartItem"
    , component "Checkout" .form "Order"
    , component "OrderHistory" .list "Order" ]
  payments := true
  search := true

/-- Publishing with rich editing, revisions and tags. -/
def contentManagement : Blueprint where
  name := "content_management"
  ownModels _ :=
    Schema.link
      [ model "Author" [Field.must "name", Field.must "email" .email, Field.may "bio"]
          [] ["Article"] [.owner, .guestRead]
      , model "Article"
          [ Field.must "title", Field.must "slug", Field.must "body", Field.must "status"
          , Field.may "publishedAt" .datetime ]
          ["Author"] ["ArticleRevision"] [.owner, .guestRead, .group "editor"]
      , model "ArticleRevision" [Field.must "body", Field.must "version" .integer]
          ["Article"] [] [.owner, .group "editor"]
      , model "Tag" [Field.must "name"] [] [] [.guestRead, .group "editor"] ]
  groups := ["admin", "editor"]
  storage :=
    { decision := "mediaUploads"
      byDefault := true
      path :=
        { path := "public/media/*"
          access :=
            [ "allow.guest.to(['read'])"
            , "allow.groups(['editor', 'admin']).to(['read', 'write', 'delete'])" ] } }
  components _ stores :=
    [ component "ArticleList" .list "Article"
    , component "ArticleEditor" .editor "Article"
    , component "ArticleView" .detail "Article"
    , component "TagManager" .list "Tag" ]
    ++ (if stores then [Component.make "MediaLibrary" .list none] else [])
  richText := true
  search := true

/-- Live metrics, dashboards and chart widgets. -/
def dashboardAnalytics : Blueprint where
  name := "dashboard_analytics"
  ownModels _ :=
    Schema.link
      [ model "DataSource" [Field.must "name", Field.must "kind", Field.may "endpoint" .url]
          [] ["Metric"] [.owner, .group "admin"]
      , model "Metric"
          [Field.must "name", Field.must "value" .float, Field.must "recordedAt" .datetime]
          ["DataSource"] [] [.owner, .authenticatedRead]
      , model "Dashboard" [Field.must "title", Field.may "layout" .json] [] ["Widget"]
      , model "Widget" [Field.must "title", Field.must "chartType", Field.must "query" .json]
          ["Dashboard"] ]
  groups := ["admin", "viewer"]
  storage :=
    { decision := "exports"
      byDefault := false
      path :=
        { path := "exports/\x7bentity_id\x7d/*"
          access := ["allow.entity('identity').to(['read', 'write', 'delete'])"] } }
  components _ _ :=
    [ component "DashboardGrid" .layout "Dashboard"
    , component "ChartWidget" .chart "Widget"
    , component "MetricTable" .list "Metric"
    , component "DataSourceForm" .form "DataSource" ]
  realTime := true
  charts := true

/-- Plain forms over one or more models that their owners see. -/
def simpleCrud : Blueprint where
  name := "simple_crud"
  ownModels d :=
    [ model d.entityName
        [Field.must "title", Field.may "description", Field.may "completed" .boolean] ]
  storage :=
    { decision := "mediaUploads"
      byDefault := false
      path :=
        { path := "attachments/\x7bentity_id\x7d/*"
          access := ["allow.entity('identity').to(['read', 'write', 'delete'])"] } }
  components models _ := Component.crud models

def builtIn : List Blueprint :=
  [socialPlatform, eCommerce, contentManagement, dashboardAnalytics, simpleCrud]

end Blueprint

end Scaffold
