import Scaffold.Context
import Scaffold.Template.Helper
import Scaffold.Template.Parse

namespace Scaffold

/-!
# Rendering templates

A template is rendered against a context by a renderer, which has a set of
helpers and a mode. In strict mode an absent variable is an error; in
lenient mode it is written as nothing.
-/

/-- What to do about paths that lead to nothing. -/
inductive RenderMode
  | strict
  | lenient
  deriving DecidableEq, Repr

namespace RenderMode

def name : RenderMode → String
  | .strict => "strict"
  | .lenient => "lenient"

def ofName? (s : String) : Option RenderMode :=
  [strict, lenient].find? (·.name == s)

def unknownMessage (s : String) : String :=
  s!"{Text.quote s} is not a valid RenderMode"

@[simp] theorem ofName?_name (m : RenderMode) : ofName? m.name = some m := by
  cases m <;> decide

end RenderMode

/-- What goes wrong at a node. -/
inductive RenderTrouble
  | missingVariable
  | unregisteredHelper (helper : String)
  | helperArity (helper : String) (arity : Nat)
  | helperRejects (helper typeName : String)
  | helperResult (helper : String) (error : FreezeError)
  | notInterpolable (typeName : String)
  | collectionExpected (typeName : String)
  deriving DecidableEq, Repr

inductive RenderErrorKind
  | missingVariable
  | collectionExpected
  | helperArityError
  | typeMismatch
  deriving DecidableEq, Repr

def RenderErrorKind.name : RenderErrorKind → String
  | .missingVariable => "MissingVariable"
  | .collectionExpected => "CollectionExpected"
  | .helperArityError => "HelperArityError"
  | .typeMismatch => "TypeMismatch"

def RenderTrouble.kind : RenderTrouble → RenderErrorKind
  | .missingVariable | .unregisteredHelper _ => .missingVariable
  | .helperArity .. => .helperArityError
  | .helperRejects .. | .helperResult .. | .notInterpolable _ => .typeMismatch
  | .collectionExpected _ => .collectionExpected

/-- A trouble at a node, with the path that the node is about. -/
structure RenderError where
  trouble : RenderTrouble
  path : Path
  position : Position
  deriving DecidableEq, Repr

namespace RenderError

def kind (e : RenderError) : RenderErrorKind :=
  e.trouble.kind

def message (e : RenderError) : String :=
  match e.trouble with
  | .missingVariable => s!"Variable {Text.quote e.path.dotted} is not defined"
  | .unregisteredHelper helper =>
    s!"Helper {Text.quote helper} is not registered with this renderer"
  | .helperArity helper arity =>
    s!"Helper {Text.quote helper} takes {arity} arguments, an interpolation passes exactly 1"
  | .helperRejects helper typeName =>
    s!"Helper {Text.quote helper} cannot be applied to a {typeName} value"
  | .helperResult helper error =>
    s!"Helper {Text.quote helper} returned an unsupported value: {error.message}"
  | .notInterpolable typeName =>
    s!"Cannot interpolate a {typeName} value; use " ++ Flaw.tagText "#each"
      ++ " or the json helper"
  | .collectionExpected typeName =>
    Flaw.tagText ("#each " ++ e.path.dotted) ++ s!" needs a List or Map, got {typeName}"

end RenderError

/-- Why a render stops: an error of the template or its data, or a fault of a helper or an
index. -/
inductive RenderFailure
  | error (e : RenderError)
  | fault (f : Fault)
  deriving DecidableEq, Repr

/-- The result of rendering something. -/
abbrev Rendered (α : Type) := Except RenderFailure α

/-- The name of the type of what a path leads to. -/
def typeNameOf : Option Value → String
  | some v => v.typeName
  | none => "Missing"

/-- Is what a path leads to truthy? What is absent is not. -/
def isTruthyAt : Option Value → Bool
  | some v => v.isTruthy
  | none => false

namespace Value

/-- The text of a scalar value in the output; whole floats are written as whole numbers. -/
def text? : Value → Option String
  | .bool true => some "true"
  | .bool false => some "false"
  | .int n => some (toString n)
  | .float x =>
    match x.toInt? with
    | some n => some (toString n)
    | none => some (FloatLayout.plain.write x)
  | .str s => some s
  | .list _ | .map _ => none

end Value

namespace Scope

/-- The scope of the turn number `i` of a loop over `size` items. -/
def turn (s : Scope) (size i : Nat) (key? : Option String) (item : Value) : Scope :=
  s.child item fun
    | .index => some (.int i)
    | .key => key?.map .str
    | .first => some (.bool (i == 0))
    | .last => some (.bool (i + 1 == size))

/-- The scopes of a loop over a collection, one for each turn. -/
def turns? (s : Scope) : Value → Option (List Scope)
  | .list items => some (items.mapIdx fun i item => s.turn items.length i none item)
  | .map entries =>
    some (entries.mapIdx fun i (key, item) => s.turn entries.length i (some key) item)
  | _ => none

end Scope

/-- What renders templates: a set of helpers and a mode. -/
structure Renderer where
  helpers : Helpers
  mode : RenderMode

namespace Renderer

/-- What a path leads to; faults pass. -/
def resolve (s : Scope) (path : Path) : Rendered (Option Value) :=
  match s.resolve path with
  | .ok v => .ok v
  | .error f => .error (.fault f)

/-- Applies a helper, if it is there and fits the value. -/
def applyHelper (r : Renderer) (path : Path) (pos : Position) (name : String) (v : Value) :
    Rendered Value :=
  let fail (trouble : RenderTrouble) : Rendered Value := .error (.error ⟨trouble, path, pos⟩)
  match r.helpers.find? name with
  | none => fail (.unregisteredHelper name)
  | some h =>
    if h.arity != 1 then fail (.helperArity name h.arity)
    else if !h.acceptsValue v then fail (.helperRejects name v.typeName)
    else
      match h.apply v.toDatum with
      | .error f => .error (.fault f)
      | .ok d =>
        match d.freeze with
        | .ok w => .ok w
        | .error e => fail (.helperResult name e)

def interpolate (r : Renderer) (s : Scope) (path : Path) (helpers : List String)
    (pos : Position) : Rendered String := do
  match ← resolve s path with
  | none =>
    match r.mode with
    | .strict => .error (.error ⟨.missingVariable, path, pos⟩)
    | .lenient => pure ""
  | some v =>
    let w ← helpers.reverse.foldlM (fun v name => r.applyHelper path pos name v) v
    match w.text? with
    | some text => pure text
    | none => .error (.error ⟨.notInterpolable w.typeName, path, pos⟩)

/-- The scopes in which the body of a loop is rendered. -/
def loopScopes (r : Renderer) (s : Scope) (path : Path) (pos : Position) :
    Rendered (List Scope) := do
  let v ← resolve s path
  match v.bind s.turns? with
  | some scopes => pure scopes
  | none =>
    if v.isNone && r.mode = .lenient then pure []
    else .error (.error ⟨.collectionExpected (typeNameOf v), path, pos⟩)

mutual

/-- The text of a node in a scope. -/
def renderNode (r : Renderer) : Node → Scope → Rendered String
  | .text t _, _ => .ok t
  | .interpolation path helpers pos, s => r.interpolate s path helpers pos
  | .conditional negated path body otherwise _, s => do
    let v ← resolve s path
    if isTruthyAt v != negated then renderNodes r body s else renderBranch r otherwise s
  | .loop path body pos, s => do
    let scopes ← r.loopScopes s path pos
    let texts ← scopes.mapM fun t => renderNodes r body t
    pure (String.join texts)

def renderNodes (r : Renderer) : List Node → Scope → Rendered String
  | [], _ => .ok ""
  | node :: rest, s => do
    let t ← renderNode r node s
    let u ← renderNodes r rest s
    pure (t ++ u)

def renderBranch (r : Renderer) : Option (List Node) → Scope → Rendered String
  | none, _ => .ok ""
  | some nodes, s => renderNodes r nodes s

end

def render (r : Renderer) (nodes : List Node) (c : Context) : Rendered String :=
  r.renderNodes nodes (.root c)

end Renderer

/-- A template: its source, a name for messages and the helpers it may use. -/
structure Template where
  source : String
  name : String
  helpers : Helpers

namespace Template

/-- A template with a name; without one it is called a string. -/
def named (source : String) (name? : Option String) (helpers : Helpers) : Template where
  source := source
  name :=
    match name? with
    | some name => if name.isEmpty then "<string>" else name
    | none => "<string>"
  helpers := helpers

def display (t : Template) : String :=
  s!"Template(name={Text.quote t.name})"

def parse (t : Template) : Except ParseError (List Node) :=
  Node.parse t.helpers.knows t.source

end Template

end Scaffold
