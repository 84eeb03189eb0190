import Scaffold.Number.Shortest
import Scaffold.Text.Letter
import Scaffold.Text.Quoted

namespace Scaffold

/-!
# Values

Templates are rendered against values: booleans, numbers, strings, lists
and maps with string keys in a fixed order. There is no null; what is
absent has no value at all.
-/

/-- A value that templates can see. -/
inductive Value
  | bool (b : Bool)
  | int (n : Int)
  | float (x : Double)
  | str (s : String)
  | list (items : List Value)
  | map (entries : List (String × Value))
  deriving Repr, Inhabited

/-- The kinds of value that a helper may accept. -/
inductive ValueKind
  | bool
  | int
  | float
  | str
  | list
  | map
  deriving DecidableEq, Repr

/-- An operation met something it is not defined on. None of these is an error that rendering
declares; each names what was met. -/
inductive Fault
  /-- A list index is made of digits that are no decimal digits. -/
  | notDecimal (segment : String)
  /-- An empty path has no head to resolve. -/
  | emptyPath
  /-- Words were looked for in something that is no text. -/
  | noText (typeName : String)
  /-- Words were looked for in bytes. -/
  | bytesAsText
  /-- A text operation was applied to something that is no text. -/
  | wrongReceiver (operation typeName : String)
  /-- The first character was asked of something without parts. -/
  | noParts (typeName : String)
  /-- The first part was asked of a map. -/
  | slicedMap
  /-- A text operation was looked up on something that has none of that name. -/
  | noOperation (operation typeName : String)
  /-- The length was asked of something without one. -/
  | noLength (typeName : String)
  /-- Something has no JSON form. -/
  | noJson (typeName : String)
  /-- A key has no JSON form. -/
  | noJsonKey (typeName : String)
  /-- A path name holds a zero byte, so no file can have it. -/
  | zeroByte
  deriving DecidableEq, Repr

def Fault.message : Fault → String
  | .notDecimal segment => s!"invalid literal for int() with base 10: {Text.quote segment}"
  | .emptyPath => "tuple index out of range"
  | .noText t => s!"expected string or bytes-like object, got '{t}'"
  | .bytesAsText => "cannot use a string pattern on a bytes-like object"
  | .wrongReceiver op t => s!"descriptor '{op}' for 'str' objects doesn't apply to a '{t}' object"
  | .noParts t => s!"'{t}' object is not subscriptable"
  | .slicedMap => "unhashable type: 'slice'"
  | .noOperation op t => s!"'{t}' object has no attribute '{op}'"
  | .noLength t => s!"object of type '{t}' has no len()"
  | .noJson t => s!"Object of type {t} is not JSON serializable"
  | .noJsonKey t => s!"keys must be str, int, float, bool or None, not {t}"
  | .zeroByte => "embedded null byte"

namespace Value

def kind : Value → ValueKind
  | .bool _ => .bool
  | .int _ => .int
  | .float _ => .float
  | .str _ => .str
  | .list _ => .list
  | .map _ => .map

/-- The name of a value's type in messages; the two kinds of number share one. -/
def typeName : Value → String
  | .bool _ => "Bool"
  | .int _ | .float _ => "Scalar"
  | .str _ => "String"
  | .list _ => "List"
  | .map _ => "Map"

/-- The condition a value stands for: false, zero and what is empty are falsy. -/
def isTruthy : Value → Bool
  | .bool b => b
  | .int n => n != 0
  | .float x => !x.isZero
  | .str s => s != ""
  | .list items => !items.isEmpty
  | .map entries => !entries.isEmpty

/-- The number that a segment made of digits writes. -/
def index? (segment : String) : Except Fault Nat :=
  let digit (n : Nat) (c : Char) : Option Nat := (Text.decimalValue? c).map (10 * n + ·)
  match segment.toList.foldlM digit 0 with
  | some n => .ok n
  | none => .error (.notDecimal segment)

/-- Can a segment select an item of a list? -/
def isIndex (segment : String) : Bool :=
  segment != "" && segment.toList.all Text.isDigit

/-- The part of a value that one segment names: an entry of a map or an item of a list. -/
def child? (v : Value) (segment : String) : Except Fault (Option Value) :=
  match v with
  | .map entries => .ok (entries.lookup segment)
  | .list items =>
    if isIndex segment then (index? segment).map (items[·]?) else .ok none
  | _ => .ok none

/-- The part of a value that a list of segments leads to. -/
def walk (v : Value) : List String → Except Fault (Option Value)
  | [] => .ok (some v)
  | segment :: rest => do
    match ← v.child? segment with
    | none => pure none
    | some part => part.walk rest

@[simp] theorem walk_nil (v : Value) : v.walk [] = .ok (some v) := rfl

mutual

/-- The text of a value inside a larger display, strings quoted. -/
def display : Value → String
  | .bool true => "True"
  | .bool false => "False"
  | .int n => toString n
  | .float x => FloatLayout.plain.write x
  | .str s => Text.quote s
  | .list [item] => "(" ++ item.display ++ ",)"
  | .list items => "(" ++ ", ".intercalate (displayItems items) ++ ")"
  | .map entries => "mappingproxy(\x7b" ++ ", ".intercalate (displayEntries entries) ++ "\x7d)"

def displayItems : List Value → List String
  | [] => []
  | item :: rest => item.display :: displayItems rest

/-- Entries as they stand between the braces of a map. -/
def displayEntries : List (String × Value) → List String
  | [] => []
  | (key, item) :: rest => (Text.quote key ++ ": " ++ item.display) :: displayEntries rest

end

end Value

end Scaffold
