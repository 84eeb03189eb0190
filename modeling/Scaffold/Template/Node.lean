import Scaffold.Position
import Scaffold.Template.Path

namespace Scaffold

/-!
# Template nodes

A parsed template is a list of nodes: text, interpolations and blocks. A
conditional may have a second branch; a loop has none. Every node carries
the position of its first character, which takes no part in comparing
templates.
-/

/-- A piece of a parsed template. -/
inductive Node
  | text (s : String) (pos : Position)
  /-- The helpers are in order of appearance; the last one is applied first. -/
  | interpolation (path : Path) (helpers : List String) (pos : Position)
  /-- With `negated` the body is for the case that the condition fails. -/
  | conditional (negated : Bool) (path : Path) (body : List Node) (otherwise : Option (List Node))
    (pos : Position)
  | loop (path : Path) (body : List Node) (pos : Position)
  deriving Repr, Inhabited

inductive BlockKind
  | conditional (negated : Bool)
  | loop
  deriving DecidableEq, Repr

namespace BlockKind

/-- The word that opens and closes a block. -/
def keyword : BlockKind → String
  | .conditional false => "if"
  | .conditional true => "unless"
  | .loop => "each"

def ofKeyword? (word : List Char) : Option BlockKind :=
  [conditional false, conditional true, loop].find? (·.keyword.toList == word)

@[simp] theorem ofKeyword?_keyword (k : BlockKind) : ofKeyword? k.keyword.toList = some k := by
  rcases k with (_ | _) | _ <;> decide

end BlockKind

namespace Node

def position : Node → Position
  | .text _ pos => pos
  | .interpolation _ _ pos => pos
  | .conditional _ _ _ _ pos => pos
  | .loop _ _ pos => pos

mutual

/-- Do two nodes agree in all but their positions? -/
def same : Node → Node → Bool
  | .text s _, .text t _ => s == t
  | .interpolation p hs _, .interpolation q ks _ => p == q && hs == ks
  | .conditional n p body otherwise _, .conditional m q body' otherwise' _ =>
    n == m && p == q && sameAll body body' && sameBranch otherwise otherwise'
  | .loop p body _, .loop q body' _ => p == q && sameAll body body'
  | _, _ => false

def sameAll : List Node → List Node → Bool
  | [], [] => true
  | n :: ns, m :: ms => same n m && sameAll ns ms
  | _, _ => false

def sameBranch : Option (List Node) → Option (List Node) → Bool
  | none, none => true
  | some ns, some ms => sameAll ns ms
  | _, _ => false

end

end Node

end Scaffold
