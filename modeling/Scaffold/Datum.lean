import Scaffold.Value

namespace Scaffold

/-!
# Data

A datum is what comes in from outside: configuration files, decisions,
what a helper returns. It may hold nulls, keys of any type and things
that no template can see. Freezing turns a datum into a value; thawing
turns a value back into plain data.
-/

/-- Data from outside. -/
inductive Datum
  | null
  | bool (b : Bool)
  | int (n : Int)
  | float (x : Double)
  | str (s : String)
  | list (items : List Datum)
  | tuple (items : List Datum)
  | map (entries : List (Datum × Datum))
  /-- A member of an enumeration, standing for its value. -/
  | enum (value : Datum)
  /-- A render context used as data. -/
  | context (entries : List (String × Value))
  /-- An object of a type that has no value form. -/
  | unsupported (type : String)
  deriving Repr, Inhabited

inductive FreezeError
  | nonStringKey (type display : String)
  | unsupported (type : String)
  deriving DecidableEq, Repr

def FreezeError.message : FreezeError → String
  | .nonStringKey type display => s!"Map keys must be strings, got {type}: {display}"
  | .unsupported type => s!"Unsupported value type: {type}"

/-- Why a text is read as no datum. -/
inductive NoDatum
  /-- The text breaks the rules of its format. -/
  | malformed
  /-- It writes a character, a number or a date that does not exist. -/
  | impossible
  /-- It says what data cannot hold, such as half of a character or a tag. -/
  | unsupported
  deriving DecidableEq, Repr

namespace Datum

def ownType : Datum → String
  | .null => "NoneType"
  | .bool _ => "bool"
  | .int _ => "int"
  | .float _ => "float"
  | .str _ => "str"
  | .list _ => "list"
  | .tuple _ => "tuple"
  | .map _ => "dict"
  | .enum _ => "Enum"
  | .context _ => "Context"
  | .unsupported type => type

/-- The kind of value that a datum already is; an unfrozen list is of none. -/
def kind? : Datum → Option ValueKind
  | .bool _ => some .bool
  | .int _ => some .int
  | .float _ => some .float
  | .str _ => some .str
  | .tuple _ => some .list
  | .map _ | .context _ => some .map
  | _ => none

/-- The name of a datum's type in messages about values. -/
def typeName : Datum → String
  | .bool _ => "Bool"
  | .int _ | .float _ => "Scalar"
  | .str _ => "String"
  | .tuple _ => "List"
  | .map _ | .context _ => "Map"
  | d => d.ownType

/-- The condition that a datum stands for when it is taken for a value; what is no value counts
as true. -/
def isTruthy : Datum → Bool
  | .bool b => b
  | .int n => n != 0
  | .float x => !x.isZero
  | .str s => s != ""
  | .tuple items => !items.isEmpty
  | .map entries => !entries.isEmpty
  | .context entries => !entries.isEmpty
  | _ => true

/-- Is there anything in the datum? Null, false, zero and what is empty hold nothing. -/
def isPresent : Datum → Bool
  | .null => false
  | .list items => !items.isEmpty
  | d => d.isTruthy

mutual

/-- The text of a datum inside a larger display, strings quoted. -/
def display : Datum → String
  | .null => "None"
  | .bool true => "True"
  | .bool false => "False"
  | .int n => toString n
  | .float x => FloatLayout.plain.write x
  | .str s => Text.quote s
  | .list items => "[" ++ ", ".intercalate (displayItems items) ++ "]"
  | .tuple [item] => "(" ++ item.display ++ ",)"
  | .tuple items => "(" ++ ", ".intercalate (displayItems items) ++ ")"
  | .map entries => "\x7b" ++ ", ".intercalate (displayEntries entries) ++ "\x7d"
  | .enum value => value.display
  | .context entries =>
    "Context(\x7b" ++ ", ".intercalate (Value.displayEntries entries) ++ "\x7d)"
  | .unsupported type => type

def displayItems : List Datum → List String
  | [] => []
  | item :: rest => item.display :: displayItems rest

def displayEntries : List (Datum × Datum) → List String
  | [] => []
  | (key, item) :: rest => (key.display ++ ": " ++ item.display) :: displayEntries rest

end

/-- The text of a datum on its own: a string is its own text. -/
def text : Datum → String
  | .str s => s
  | d => d.display

mutual

/-- The value form of a datum. Nulls inside lists and maps are left out, so that they look
absent; an enumeration member gives way to its value, once. -/
def freeze : Datum → Except FreezeError Value
  | .bool b => .ok (.bool b)
  | .int n => .ok (.int n)
  | .float x => .ok (.float x)
  | .str s => .ok (.str s)
  | .list items => (freezeItems items).map .list
  | .tuple items => (freezeItems items).map .list
  | .map entries => (freezeEntries entries).map .map
  | .context entries => .ok (.map entries)
  | .enum (.enum _) => .error (.unsupported "Enum")
  | .enum value => freeze value
  | .null => .error (.unsupported "NoneType")
  | .unsupported type => .error (.unsupported type)

def freezeItems : List Datum → Except FreezeError (List Value)
  | [] => .ok []
  | .null :: rest => freezeItems rest
  | item :: rest => do
    let v ← freeze item
    let vs ← freezeItems rest
    pure (v :: vs)

/-- The entries whose item is not null; every key has to be a string, that of a null too. -/
def freezeEntries : List (Datum × Datum) → Except FreezeError (List (String × Value))
  | [] => .ok []
  | (.str _, .null) :: rest => freezeEntries rest
  | (.str key, item) :: rest => do
    let v ← freeze item
    let vs ← freezeEntries rest
    pure ((key, v) :: vs)
  | (key, _) :: _ => .error (.nonStringKey key.ownType key.display)

end

/-- The number that a datum is: whole numbers exact, others as doubles, booleans as 0 and 1. -/
def number? : Datum → Option (Int ⊕ Double)
  | .bool b => some (.inl (if b then 1 else 0))
  | .int n => some (.inl n)
  | .float x =>
    match x.toInt? with
    | some n => some (.inl n)
    | none => if x.isNaN then none else some (.inr x)
  | _ => none

/-- Are two keys the same key? Numbers are compared as numbers, and so are booleans. -/
def sameKey : Datum → Datum → Bool
  | .str s, .str t => s == t
  | .null, .null => true
  | .enum a, .enum b => sameKey a b
  | a, b =>
    match a.number?, b.number? with
    | some x, some y => x == y
    | _, _ => false

/-- An entry put under a key: in the place of an entry with the same key, else at the end. -/
def putEntry (key item : Datum) : List (Datum × Datum) → List (Datum × Datum)
  | [] => [(key, item)]
  | (k, i) :: rest => if sameKey k key then (k, item) :: rest else (k, i) :: putEntry key item rest

/-- The map made of entries in the order given; of entries with one key the last item stands, in
the first place. -/
def ofEntries (entries : List (Datum × Datum)) : Datum :=
  .map (entries.foldl (fun es (key, item) => putEntry key item es) [])

def get? (d : Datum) (key : String) : Option Datum :=
  match d with
  | .map entries => (entries.find? fun (k, _) => sameKey k (.str key)).map (·.2)
  | _ => none

end Datum

namespace Value

mutual

def thaw : Value → Datum
  | .bool b => .bool b
  | .int n => .int n
  | .float x => .float x
  | .str s => .str s
  | .list items => .list (thawItems items)
  | .map entries => .map (thawEntries entries)

def thawItems : List Value → List Datum
  | [] => []
  | item :: rest => item.thaw :: thawItems rest

def thawEntries : List (String × Value) → List (Datum × Datum)
  | [] => []
  | (key, item) :: rest => (.str key, item.thaw) :: thawEntries rest

end

mutual

/-- A value taken as a datum, its lists kept as frozen ones. -/
def toDatum : Value → Datum
  | .bool b => .bool b
  | .int n => .int n
  | .float x => .float x
  | .str s => .str s
  | .list items => .tuple (toDatumItems items)
  | .map entries => .map (toDatumEntries entries)

def toDatumItems : List Value → List Datum
  | [] => []
  | item :: rest => item.toDatum :: toDatumItems rest

def toDatumEntries : List (String × Value) → List (Datum × Datum)
  | [] => []
  | (key, item) :: rest => (.str key, item.toDatum) :: toDatumEntries rest

end

end Value

namespace Datum

mutual

/-- The plain data of a datum: maps and frozen lists are gone through, contexts become maps. What
stands inside any other list is left as it is. -/
def thaw : Datum → Datum
  | .tuple items => .list (thawItems items)
  | .map entries => .map (thawEntries entries)
  | .context entries => (Value.map entries).thaw
  | d => d

def thawItems : List Datum → List Datum
  | [] => []
  | item :: rest => thaw item :: thawItems rest

def thawEntries : List (Datum × Datum) → List (Datum × Datum)
  | [] => []
  | (key, item) :: rest => (key, thaw item) :: thawEntries rest

end

mutual

/-- Thawing does not see whether a value has been taken as a datum first. -/
theorem thaw_toDatum : ∀ v : Value, thaw v.toDatum = v.thaw
  | .bool _ | .int _ | .float _ | .str _ => rfl
  | .list items => by simp [Value.toDatum, Value.thaw, thaw, thawItems_toDatumItems items]
  | .map entries => by simp [Value.toDatum, Value.thaw, thaw, thawEntries_toDatumEntries entries]

theorem thawItems_toDatumItems : ∀ items : List Value,
    thawItems (Value.toDatumItems items) = Value.thawItems items
  | [] => rfl
  | item :: rest => by
    simp [Value.toDatumItems, Value.thawItems, thawItems, thaw_toDatum item,
      thawItems_toDatumItems rest]

theorem thawEntries_toDatumEntries : ∀ entries : List (String × Value),
    thawEntries (Value.toDatumEntries entries) = Value.thawEntries entries
  | [] => rfl
  | (key, item) :: rest => by
    simp [Value.toDatumEntries, Value.thawEntries, thawEntries, thaw_toDatum item,
      thawEntries_toDatumEntries rest]

end

end Datum

end Scaffold
