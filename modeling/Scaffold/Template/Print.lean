import Scaffold.Template.Node

namespace Scaffold.Node

/-!
# Printing templates

Nodes are written in the notation that parsing reads: text as it is, tags
with single spaces between helpers and path.
-/

/-- A tag with the given content. -/
def tagSource (content : List Char) : List Char :=
  '{' :: '{' :: content ++ ['}', '}']

def interpolationContent (path : Path) (helpers : List String) : List Char :=
  helpers.foldr (fun helper after => helper.toList ++ ' ' :: after) path.dotted.toList

def openContent (kind : BlockKind) (path : Path) : List Char :=
  '#' :: kind.keyword.toList ++ ' ' :: path.dotted.toList

def closeContent (kind : BlockKind) : List Char :=
  '/' :: kind.keyword.toList

mutual

def source : Node → List Char
  | .text s _ => s.toList
  | .interpolation path helpers _ => tagSource (interpolationContent path helpers)
  | .conditional negated path body otherwise _ =>
    tagSource (openContent (.conditional negated) path) ++ sourceAll body
      ++ sourceBranch otherwise ++ tagSource (closeContent (.conditional negated))
  | .loop path body _ =>
    tagSource (openContent .loop path) ++ sourceAll body ++ tagSource (closeContent .loop)

def sourceAll : List Node → List Char
  | [] => []
  | node :: rest => source node ++ sourceAll rest

/-- The source of a second branch, with the tag before it. -/
def sourceBranch : Option (List Node) → List Char
  | none => []
  | some nodes => tagSource "else".toList ++ sourceAll nodes

end

def print (nodes : List Node) : String :=
  String.ofList (sourceAll nodes)

end Scaffold.Node
