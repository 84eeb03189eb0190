import Scaffold.Json.Print
import Scaffold.Words

namespace Scaffold

/-!
# Helpers

A helper is a named function that an interpolation applies to its value.
Each one says on which kinds of value it is defined, so that a renderer
can refuse the others. A set of helpers keeps them in order, one to a name.
-/

/-- A function on values that templates can call by name. -/
structure Helper where
  name : String
  accepts : List ValueKind
  /-- How many arguments the function takes; an interpolation passes one. -/
  arity : Nat
  apply : Datum → Except Fault Datum

namespace Helper

def acceptsDatum (h : Helper) (d : Datum) : Bool :=
  match d.kind? with
  | some k => h.accepts.contains k
  | none => false

def acceptsValue (h : Helper) (v : Value) : Bool :=
  h.accepts.contains v.kind

/-- A lowercase letter, then ASCII letters, digits and underscores. -/
def isName (s : String) : Bool :=
  match s.toList with
  | [] => false
  | c :: cs => c.isLower && cs.all fun d => d.isAlphanum || d == '_'

/-- A helper that turns text into text; `otherwise` is its fault on anything else. -/
def ofText (name : String) (f : String → String) (otherwise : Datum → Fault) : Helper where
  name := name
  accepts := [.str]
  arity := 1
  apply
    | .str s => .ok (.str (f s))
    | d => .error (otherwise d)

/-- A helper that respells the words of a text. -/
def ofSpelling (name : String) (spelling : Words.Spelling) : Helper :=
  ofText name spelling.respell fun
    | .unsupported "bytes" => .bytesAsText
    | d => .noText d.ownType

/-- A helper that maps the characters of a text. -/
def ofChars (name : String) (f : List Char → List Char) : Helper :=
  ofText name (fun s => String.ofList (f s.toList)) fun d => .wrongReceiver name d.ownType

/-- The first character in upper case. -/
def capitalize : Helper :=
  ofText "capitalize" (fun s => String.ofList (Words.upperFirst s.toList)) fun
    | .list _ | .tuple _ => .noOperation "upper" "list"
    | .map _ | .context _ => .slicedMap
    | d => .noParts d.ownType

/-- The plural of a word; what is empty is its own plural. -/
def pluralize : Helper where
  name := "pluralize"
  accepts := [.str]
  arity := 1
  apply
    | .str s => .ok (.str (Words.plural s))
    | d => if d.isPresent then .error (.noOperation "lower" d.ownType) else .ok d

def json : Helper where
  name := "json"
  accepts := [.bool, .int, .float, .str, .list, .map]
  arity := 1
  apply d := (Json.print .spaced d.thaw).map .str

/-- The number of characters, items or entries. -/
def length : Helper where
  name := "length"
  accepts := [.str, .list, .map]
  arity := 1
  apply
    | .str s => .ok (.int s.length)
    | .list items | .tuple items => .ok (.int items.length)
    | .map entries => .ok (.int entries.length)
    | .context entries => .ok (.int entries.length)
    | d => .error (.noLength d.ownType)

end Helper

/-- Helpers in order, one to a name. -/
structure Helpers where
  list : List Helper

/-- A name that no helper can have. -/
structure HelperNameError where
  name : String
  deriving DecidableEq, Repr

def HelperNameError.message (e : HelperNameError) : String :=
  s!"Invalid helper name: {Text.quote e.name}"

namespace Helpers

def find? (hs : Helpers) (name : String) : Option Helper :=
  hs.list.find? (·.name == name)

def names (hs : Helpers) : List String :=
  hs.list.map (·.name)

def size (hs : Helpers) : Nat :=
  hs.list.length

def knows (hs : Helpers) (name : String) : Bool :=
  (hs.find? name).isSome

/-- A helper put in the place of one with its name, else at the end. -/
def putIn (h : Helper) : List Helper → List Helper
  | [] => [h]
  | g :: gs => if g.name == h.name then h :: gs else g :: putIn h gs

/-- The helpers with one more, which takes the place of one with its name. -/
def insert (hs : Helpers) (h : Helper) : Except HelperNameError Helpers :=
  if Helper.isName h.name then .ok ⟨putIn h hs.list⟩ else .error ⟨h.name⟩

/-- The helpers with more of them, in order. -/
def extend (hs : Helpers) (more : List Helper) : Except HelperNameError Helpers :=
  more.foldlM insert hs

def ofList (list : List Helper) : Except HelperNameError Helpers :=
  extend ⟨[]⟩ list

/-- The helpers that every template can use. -/
def standard : Helpers where
  list :=
    [ .ofSpelling "kebabcase" .kebab
    , .ofSpelling "snakecase" .snake
    , .ofSpelling "constantcase" .constant
    , .ofSpelling "pascalcase" .pascal
    , .ofSpelling "camelcase" .camel
    , .ofSpelling "titlecase" .title
    , .ofChars "upper" Text.upper
    , .ofChars "lower" Text.lower
    , .capitalize
    , .pluralize
    , .json
    , .length ]

end Helpers

end Scaffold
