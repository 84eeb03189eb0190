import Scaffold.Datum
import Scaffold.Schema.Link

namespace Scaffold

/-!
# Decisions

Decisions are the answers of an interview about a project. They come from
outside, so each is looked at where it is read, and one that does not have
the form it should is taken as not given.
-/

structure Decisions where
  entries : List (String × Datum)
  deriving Repr, Inhabited

namespace Datum

def isMapping : Datum → Bool
  | .map _ | .context _ => true
  | _ => false

/-- The item under a name in a map of any sort. -/
def item? (d : Datum) (name : String) : Option Datum :=
  match d with
  | .context entries => (entries.lookup name).map Value.toDatum
  | d => d.get? name

end Datum

namespace Decisions

/-- The answers in a map. -/
def ofDatum : Datum → Decisions
  | .map entries => ⟨entries.filterMap fun
    | (.str key, item) => some (key, item)
    | _ => none⟩
  | .context entries => ⟨entries.map fun (key, v) => (key, v.toDatum)⟩
  | _ => ⟨[]⟩

def get? (d : Decisions) (key : String) : Option Datum :=
  d.entries.lookup key

def flag (d : Decisions) (key : String) (otherwise : Bool) : Bool :=
  match d.get? key with
  | some (.bool b) => b
  | _ => otherwise

/-- A text with something in it, without the blanks around. -/
def text? (d : Decisions) (key : String) : Option String :=
  match d.get? key with
  | some (.str s) =>
    let t := Text.trim s.toList
    if t.isEmpty then none else some (String.ofList t)
  | _ => none

/-- The texts in a list that have something in them, in lower case. -/
def texts (items : List Datum) : List String :=
  items.filterMap fun
    | .str s =>
      let t := Text.trim s.toList
      if t.isEmpty then none else some (String.ofList (Text.lower t))
    | _ => none

def textList (d : Decisions) (key : String) (otherwise : List String) : List String :=
  match d.get? key with
  | some (.list items) => texts items
  | _ => otherwise

/-- A name, which is a text with a word in it. -/
def name? : Option Datum → Option String
  | some (.str s) => if Words.hasWord s then some s else none
  | _ => none

/-- The names in a list; a single name counts as a list of one. -/
def names : Option Datum → List String
  | some (.str s) => (name? (some (.str s))).toList
  | some (.list items) => items.filterMap fun item => name? (some item)
  | _ => []

/-- A field written as its name or as a map. -/
def field? : Datum → Option Field
  | .str s => (name? (some (.str s))).map (Field.must ·)
  | spec =>
    if !spec.isMapping then none
    else
      (name? (spec.item? "name")).map fun name =>
        let type :=
          match spec.item? "type" with
          | some (.str word) => FieldType.ofWord word
          | _ => .string
        let required :=
          match spec.item? "required" with
          | some (.bool b) => b
          | _ => true
        Field.make name type required

def fields : Option Datum → List Field
  | some (.list items) => items.filterMap field?
  | _ => []

/-- An entity written as a map with a name. -/
def entity? (spec : Datum) : Option Model :=
  if !spec.isMapping then none
  else
    (name? (spec.item? "name")).map fun name =>
      Model.make name (fields (spec.item? "fields")) (names (spec.item? "belongsTo"))
        (names (spec.item? "hasMany")) [AccessRule.owner.text]

/-- The models without those whose name an earlier one has. -/
def firstOfName (models : List Model) : List Model :=
  models.foldl (fun done m => if Schema.knows done m.name then done else done ++ [m]) []

/-- The entities that the project is to have, linked; none if no usable one is given. -/
def entities? (d : Decisions) : Option (List Model) :=
  match d.get? "entities" with
  | some (.list items) =>
    match firstOfName (items.filterMap entity?) with
    | [] => none
    | models => some (Schema.link models)
  | _ => none

def projectName (d : Decisions) : String :=
  match d.text? "projectName" with
  | some name => if Words.hasWord name then name else "untitled-project"
  | none => "untitled-project"

/-- The name of the one entity of a project that lists none. -/
def entityName (d : Decisions) : String :=
  match d.text? "entityName" with
  | some name => if Words.hasWord name then name else "Item"
  | none => "Item"

end Decisions

end Scaffold
