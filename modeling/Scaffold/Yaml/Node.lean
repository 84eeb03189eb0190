import Scaffold.Datum

namespace Scaffold.Yaml

/-!
# YAML nodes

A document is a tree of nodes. Data is made of it only when it has been read
to its end, level by level, and the first node that stands for no datum ends
that.
-/

inductive Node
  | scalar (value : Except NoDatum Datum)
  /-- The mark `<<`, which merges maps, or the mark `=`. Only as keys they mean anything. -/
  | mark (merges : Bool)
  | list (items : List Node)
  | map (entries : List (Node × Node))

namespace Node

/-- What a key is read as; no collection is one. -/
def key : Node → Except NoDatum Datum
  | .scalar value => value
  | .mark merges => if merges then .error .unsupported else .ok (.str "=")
  | .list _ | .map _ => .error .malformed

/-- The nodes right inside a node. -/
def inside : Node → List Node
  | .scalar _ | .mark _ => []
  | .list items => items
  | .map entries => entries.flatMap fun (k, value) => [.scalar k.key, value]

def flaw? : Node → Option NoDatum
  | .scalar (.error why) => some why
  | .mark _ => some .malformed
  | _ => none

/-- What is wrong with nodes and with what is inside them, level by level. -/
def flaws : (depth : Nat) → List Node → List NoDatum
  | 0, _ | _, [] => []
  | depth + 1, nodes => nodes.filterMap flaw? ++ flaws depth (nodes.flatMap inside)

mutual

/-- The datum of a node without flaws. -/
def toDatum : Node → Datum
  | .scalar value => value.toOption.getD .null
  | .mark _ => .null
  | .list items => .list (toData items)
  | .map entries => Datum.ofEntries (toEntries entries)

def toData : List Node → List Datum
  | [] => []
  | item :: rest => item.toDatum :: toData rest

def toEntries : List (Node × Node) → List (Datum × Datum)
  | [] => []
  | (k, value) :: rest => (k.key.toOption.getD .null, value.toDatum) :: toEntries rest

end

/-- The datum of a document with at most so many levels. What data cannot hold may change what
becomes of other nodes, so it is looked for everywhere first. -/
def datum (depth : Nat) (node : Node) : Except NoDatum Datum :=
  let flaws := flaws depth [node]
  if .unsupported ∈ flaws then .error .unsupported
  else
    match flaws with
    | why :: _ => .error why
    | [] => .ok node.toDatum

end Node

end Scaffold.Yaml
