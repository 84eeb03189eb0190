import Scaffold.Datum
import Scaffold.Template.Path

namespace Scaffold

/-!
# Contexts and scopes

A context holds the named values that a template is rendered against. A
scope adds what the innermost loop binds: the item as `this` and the loop
variables. Names always resolve against the context, so that a loop hides
none of them.
-/

/-- The named values of a render, in order. -/
structure Context where
  entries : List (String × Value)
  deriving Repr, Inhabited

inductive ContextError
  | notMapping (type : String)
  | freeze (error : FreezeError)
  deriving DecidableEq, Repr

def ContextError.message : ContextError → String
  | .notMapping type => s!"Context data must be a mapping, not {type}"
  | .freeze error => error.message

namespace Context

/-- The context of a mapping from outside; null stands for no entries. -/
def ofDatum : Datum → Except ContextError Context
  | .null => .ok ⟨[]⟩
  | .map entries =>
    match Datum.freezeEntries entries with
    | .ok es => .ok ⟨es⟩
    | .error e => .error (.freeze e)
  | .context entries => .ok ⟨entries⟩
  | d => .error (.notMapping d.ownType)

def value (c : Context) : Value :=
  .map c.entries

def get? (c : Context) (name : String) : Option Value :=
  c.entries.lookup name

def keys (c : Context) : List String :=
  c.entries.map (·.1)

def size (c : Context) : Nat :=
  c.entries.length

def contains (c : Context) (name : String) : Bool :=
  (c.get? name).isSome

def resolve (c : Context) (segments : List String) : Except Fault (Option Value) :=
  c.value.walk segments

def toDatum (c : Context) : Datum :=
  c.value.thaw

/-- The notes made while the context was built. -/
def warnings (c : Context) : List Value :=
  match c.get? "_warnings" with
  | some (.list items) => items
  | _ => []

def display (c : Context) : String :=
  (Datum.context c.entries).display

@[simp] theorem resolve_nil (c : Context) : c.resolve [] = .ok (some c.value) := rfl

end Context

/-- What paths resolve against at one point of a render. -/
structure Scope where
  context : Context
  this : Value
  bound : LoopVariable → Option Value

namespace Scope

/-- The scope outside of all loops: `this` is the whole context and no loop variable is bound. -/
def root (c : Context) : Scope where
  context := c
  this := c.value
  bound _ := none

def child (s : Scope) (item : Value) (bound : LoopVariable → Option Value) : Scope where
  context := s.context
  this := item
  bound := bound

/-- What a head and the segments after it lead to. A loop variable has no parts, so segments
after it are not looked at. -/
def find (s : Scope) (head : String) (rest : List String) : Except Fault (Option Value) :=
  if head = "this" then s.this.walk rest
  else
    match LoopVariable.ofName? head with
    | some v => .ok (s.bound v)
    | none => s.context.resolve (head :: rest)

def resolve (s : Scope) (p : Path) : Except Fault (Option Value) :=
  s.find p.head p.rest

/-- What a list of segments leads to; it needs a head. -/
def resolveSegments (s : Scope) : List String → Except Fault (Option Value)
  | [] => .error .emptyPath
  | head :: rest => s.find head rest

@[simp] theorem child_context (s : Scope) (item : Value) (bound : LoopVariable → Option Value) :
    (s.child item bound).context = s.context := rfl

@[simp] theorem child_this (s : Scope) (item : Value) (bound : LoopVariable → Option Value) :
    (s.child item bound).this = item := rfl

@[simp] theorem find_this (s : Scope) (rest : List String) :
    s.find "this" rest = s.this.walk rest := by
  simp [find]

end Scope

end Scaffold
