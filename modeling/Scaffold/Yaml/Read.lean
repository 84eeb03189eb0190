import Scaffold.Yaml.Node
import Scaffold.Yaml.Scalar

namespace Scaffold.Yaml

/-!
# Reading YAML documents

A text holds one document, made of block and flow collections and scalars.
In block collections the columns of the entries decide what belongs
together; in flow collections brackets and braces do. Anchors, tags,
directives and keys marked by a question mark are not supported.
-/

/-- A node that has been read, the place behind it and the line of its last character. -/
structure Read where
  node : Node
  behind : Cursor
  lastLine : Nat

/-- How far a key may reach from its start to its colon. -/
def keyReach : Nat := 1024

/-- Does a colon at `colon` end a key that started at `start`? Keys are short and on one line. -/
def isKeyEnd (start colon : Cursor) : Bool :=
  start.line == colon.line && start.rest.length - colon.rest.length ≤ keyReach

namespace Scalar

def read (s : Scalar) (node : Node) : Read :=
  ⟨node, s.behind, s.lastLine⟩

def readQuoted (s : Scalar) : Read :=
  s.read (.scalar (.ok (.str (String.ofList s.text))))

def readPlain (s : Scalar) : Read :=
  match s.text with
  | ['<', '<'] => s.read (.mark true)
  | ['='] => s.read (.mark false)
  | text => s.read (.scalar (resolve text))

end Scalar

/-- The tags of the standard. All others are errors. -/
def standardTags : List String :=
  [ "null", "bool", "int", "float", "binary", "timestamp", "omap", "pairs", "set", "str", "seq"
  , "map", "merge", "value" ]

/-- Does something start here that is not supported? An alias is not, without an anchor before
it. -/
def startsUnsupported (k : Cursor) : Bool :=
  match k.rest with
  | '&' :: _ | '?' :: _ | '!' :: '<' :: _ => true
  | '!' :: '!' :: cs => String.ofList (cs.takeWhile Char.isAlpha) ∈ standardTags
  | '!' :: cs => isSeparated cs
  | '%' :: _ => k.column == 0
  | _ => false

mutual

/-- Reads a flow collection, a quoted scalar or a plain one. -/
def readFlowNode : Nat → (flow : Bool) → (indent : Nat) → Cursor → Except NoDatum Read
  | 0, _, _, _ => .error .malformed
  | fuel + 1, flow, indent, k =>
    match k.rest with
    | '"' :: _ => (readQuoted true k.next).map Scalar.readQuoted
    | '\'' :: _ => (readQuoted false k.next).map Scalar.readQuoted
    | '[' :: _ => readFlowItems fuel [] k.next.skip
    | '\x7b' :: _ => readFlowEntries fuel [] k.next.skip
    | _ =>
      if startsPlain flow k.rest then .ok (readPlain flow indent k).readPlain
      else .error (if startsUnsupported k then .unsupported else .malformed)

/-- Reads what stands behind a colon in a flow collection; nothing stands for null. -/
def readFlowValue : Nat → Cursor → Except NoDatum Read
  | 0, _ => .error .malformed
  | fuel + 1, k =>
    match k.rest with
    | ',' :: _ | ']' :: _ | '\x7d' :: _ => .ok ⟨.scalar (.ok .null), k, k.line⟩
    | _ => readFlowNode fuel true 0 k

/-- Reads the items of a flow list from the place of a token on; an item with a colon behind it
is the key of a map with one entry. -/
def readFlowItems : Nat → List Node → Cursor → Except NoDatum Read
  | 0, _, _ => .error .malformed
  | fuel + 1, done, k =>
    if k.atMarker then .error .malformed
    else
      match k.rest with
      | ']' :: _ => .ok ⟨.list done.reverse, k.next, k.line⟩
      | _ => do
        let first ← readFlowNode fuel true 0 k
        let behind := first.behind.skip
        let item ←
          match behind.rest with
          | ':' :: _ =>
            if isKeyEnd k behind then
              (readFlowValue fuel behind.next.skip).map fun value =>
                { value with node := .map [(first.node, value.node)] }
            else .error .malformed
          | _ => .ok first
        let behind := item.behind.skip
        match behind.rest with
        | ',' :: _ => readFlowItems fuel (item.node :: done) behind.next.skip
        | ']' :: _ => .ok ⟨.list (item.node :: done).reverse, behind.next, behind.line⟩
        | _ => .error .malformed

/-- Reads the entries of a flow map from the place of a token on; a key alone has null as its
value. -/
def readFlowEntries : Nat → List (Node × Node) → Cursor → Except NoDatum Read
  | 0, _, _ => .error .malformed
  | fuel + 1, done, k =>
    if k.atMarker then .error .malformed
    else
      match k.rest with
      | '\x7d' :: _ => .ok ⟨.map done.reverse, k.next, k.line⟩
      | _ => do
        let key ← readFlowNode fuel true 0 k
        let behind := key.behind.skip
        let value ←
          match behind.rest with
          | ':' :: _ =>
            if isKeyEnd k behind then readFlowValue fuel behind.next.skip else .error .malformed
          | _ => .ok ⟨.scalar (.ok .null), behind, behind.line⟩
        let behind := value.behind.skip
        let done := (key.node, value.node) :: done
        match behind.rest with
        | ',' :: _ => readFlowEntries fuel done behind.next.skip
        | '\x7d' :: _ => .ok ⟨.map done.reverse, behind.next, behind.line⟩
        | _ => .error .malformed

end

/-- Reads a flow node inside a block that belongs to the column `parent`. -/
def readInline (fuel : Nat) (parent : Int) (k : Cursor) : Except NoDatum Read :=
  readFlowNode fuel false (parent + 1).toNat k

/-- Reads the key of a block map up to behind its colon. -/
def readKey (fuel : Nat) (parent : Int) (k : Cursor) : Except NoDatum (Node × Cursor) := do
  let key ← readInline fuel parent k
  let colon := key.behind.skipSpaces
  if colon.atColon && isKeyEnd k colon then .ok (key.node, colon.next) else .error .malformed

/-- Reads a block of text from its mark on. -/
def readTextBlock (folded : Bool) (parent : Int) (k : Cursor) : Except NoDatum Read :=
  match readBlock folded parent k.next with
  | some (text, behind) => .ok ⟨.scalar (.ok (.str (String.ofList text))), behind, k.line⟩
  | none => .error .malformed

mutual

/-- Reads the node that belongs to the column `parent`, from behind the mark in front of it on.
`fresh` says whether a block collection may start on the same line, and `underKey` whether a list
may start in the parent's column. Nothing stands for null. -/
def readBlockNode :
    Nat → (parent : Int) → (fresh underKey : Bool) → Cursor → Except NoDatum Read
  | 0, _, _, _, _ => .error .malformed
  | fuel + 1, parent, fresh, underKey, before =>
    let k := before.skip
    let crossed := before.line < k.line
    let fresh := fresh || crossed
    let column : Int := k.column
    if k.atEnd || k.atMarker then .ok ⟨.scalar (.ok .null), k, k.line⟩
    else if crossed && column ≤ parent && !(underKey && column == parent && k.atDash) then
      .ok ⟨.scalar (.ok .null), k, before.line⟩
    else if k.atDash then
      if fresh then readItems fuel k.column [] k else .error .malformed
    else
      match k.rest with
      | '|' :: _ => readTextBlock false parent k
      | '>' :: _ => readTextBlock true parent k
      | _ => do
        let read ← readInline fuel parent k
        let colon := read.behind.skipSpaces
        if colon.atColon then
          if fresh && isKeyEnd k colon then readEntries fuel k.column [] read.node colon.next
          else .error .malformed
        else if read.lastLine < read.behind.line || read.behind.atLineEnd then .ok read
        else .error .malformed

/-- Reads the items of a block list in a column, from a dash on. -/
def readItems : Nat → (column : Nat) → List Node → Cursor → Except NoDatum Read
  | 0, _, _, _ => .error .malformed
  | fuel + 1, column, done, k => do
    let item ← readBlockNode fuel column true false k.next
    let behind := item.behind.skip
    let done := item.node :: done
    if behind.atEnd || behind.atMarker || behind.column < column then
      .ok ⟨.list done.reverse, behind, item.lastLine⟩
    else if behind.column != column then .error .malformed
    else if behind.atDash then readItems fuel column done behind
    else .ok ⟨.list done.reverse, behind, item.lastLine⟩

/-- Reads the entries of a block map in a column, from behind the colon of a key on. -/
def readEntries :
    Nat → (column : Nat) → List (Node × Node) → Node → Cursor → Except NoDatum Read
  | 0, _, _, _, _ => .error .malformed
  | fuel + 1, column, done, key, k => do
    let value ← readBlockNode fuel column false true k
    let behind := value.behind.skip
    let done := (key, value.node) :: done
    if behind.atEnd || behind.atMarker || behind.column < column then
      .ok ⟨.map done.reverse, behind, value.lastLine⟩
    else if behind.column != column || behind.atDash then .error .malformed
    else
      let (key, k) ← readKey fuel column behind
      readEntries fuel column done key k

end

/-- Skips markers that end a document. -/
def skipEnds : Nat → Cursor → Cursor
  | 0, k => k
  | fuel + 1, k =>
    let k := k.skip
    if k.atMarker && "...".toList.isPrefixOf k.rest then skipEnds fuel (k.forward 3) else k

/-- Does a document that is opened by a marker start here? -/
def opensDocument (k : Cursor) : Bool :=
  k.atMarker && "---".toList.isPrefixOf k.rest

/-- The datum of a text with one document in it; an empty text is null. Each step of the readers
takes a character or goes from a node to its parts, so three times the length bounds them. -/
def parse (text : String) : Except NoDatum Datum :=
  let s := text.toList
  if !s.all isAllowed then .error .malformed
  else do
    let s := if s.head? == some '\ufeff' then s.drop 1 else s
    let fuel := 3 * s.length + 3
    let k := skipEnds fuel (Cursor.start s)
    let opened := opensDocument k
    let k := if opened then k.forward 3 else k
    let read ← readBlockNode fuel (-1) (!opened) false k
    let behind := read.behind.skip
    let behind :=
      if behind.atMarker && !opensDocument behind then skipEnds fuel behind else behind
    if behind.atEnd then read.node.datum (fuel + 1) else .error .malformed

def parse? (text : String) : Option Datum :=
  (parse text).toOption

theorem parse?_eq_some_iff {text : String} {d : Datum} :
    parse? text = some d ↔ parse text = .ok d := by
  rw [parse?]
  cases parse text <;> simp [Except.toOption]

end Scaffold.Yaml
