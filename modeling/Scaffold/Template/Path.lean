import Scaffold.Text.Cut
import Scaffold.Text.Letter
import Scaffold.Text.Quoted

namespace Scaffold

/-!
# Paths

A path such as `this.fields.0.name` names a part of what a template sees.
Its head is a name, `this` or a loop variable; the segments after it are
names or list indices.
-/

/-- A dotted path: its head and the segments after it. -/
structure Path where
  head : String
  rest : List String
  deriving DecidableEq, Repr, Inhabited

/-- The variables that a loop binds beside `this`. -/
inductive LoopVariable
  | index
  | key
  | first
  | last
  deriving DecidableEq, Repr

namespace LoopVariable

def name : LoopVariable → String
  | .index => "@index"
  | .key => "@key"
  | .first => "@first"
  | .last => "@last"

def ofName? (s : String) : Option LoopVariable :=
  [index, key, first, last].find? (·.name == s)

@[simp] theorem ofName?_name (v : LoopVariable) : ofName? v.name = some v := by
  cases v <;> decide

end LoopVariable

inductive PathFlaw
  | unknownVariable (head : String)
  | segmentsAfterVariable (head : String)
  | badHead
  | badSegment (segment : String)
  deriving DecidableEq, Repr

def PathFlaw.message : PathFlaw → String
  | .unknownVariable head => s!"unknown special variable {Text.quote head}"
  | .segmentsAfterVariable head => s!"{head} cannot be followed by further segments"
  | .badHead => "must start with a name, 'this' or an @ variable"
  | .badSegment segment => s!"bad segment {Text.quote segment}"

namespace Path

def segments (p : Path) : List String :=
  p.head :: p.rest

def dotted (p : Path) : String :=
  ".".intercalate p.segments

def isNameStart (c : Char) : Bool :=
  c.isAlpha || c == '_'

def isNameChar (c : Char) : Bool :=
  c.isAlphanum || c == '_' || c == '-'

/-- An ASCII letter or underscore, then ASCII letters, digits, underscores and hyphens. -/
def isName : List Char → Bool
  | [] => false
  | c :: cs => isNameStart c && cs.all isNameChar

/-- Decimal digits of any script. -/
def isIndex (s : List Char) : Bool :=
  !s.isEmpty && s.all Text.isDecimal

/-- The first segment that is neither a name nor an index. -/
def badSegment? (segments : List (List Char)) : Option (List Char) :=
  segments.find? fun s => !isName s && !isIndex s

def parse (raw : List Char) : Except PathFlaw Path :=
  match Text.splitOn '.' raw with
  | [] => .error .badHead
  | head :: rest =>
    let p : Path := ⟨String.ofList head, rest.map String.ofList⟩
    if head.head? == some '@' then
      if (LoopVariable.ofName? p.head).isNone then .error (.unknownVariable p.head)
      else if !rest.isEmpty then .error (.segmentsAfterVariable p.head)
      else .ok p
    else if !isName head then .error .badHead
    else
      match badSegment? rest with
      | some s => .error (.badSegment (String.ofList s))
      | none => .ok p

end Path

end Scaffold
