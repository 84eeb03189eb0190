import Scaffold.Datum

namespace Scaffold.Json

/-!
# JSON text of data

Strings keep every character they can; only quotes, backslashes and
control characters are escaped. Spacing, indentation and the notation of
floats are left to a layout.
-/

/-- How a character of a string is written. -/
def escapeChar (c : Char) : List Char :=
  if c == '"' then ['\\', '"']
  else if c == '\\' then ['\\', '\\']
  else if c == '\n' then ['\\', 'n']
  else if c == '\r' then ['\\', 'r']
  else if c == '\t' then ['\\', 't']
  else if c == '\x08' then ['\\', 'b']
  else if c == '\x0c' then ['\\', 'f']
  else if c.toNat < 32 then '\\' :: 'u' :: Text.hexDigits 4 c.toNat
  else [c]

def quote (s : String) : String :=
  String.ofList ('"' :: s.toList.flatMap escapeChar ++ ['"'])

/-- The spacing of JSON text. -/
structure Layout where
  itemSeparator : String
  keySeparator : String
  /-- Spaces per level; without it everything stands on one line. -/
  indent : Option Nat
  floats : FloatLayout
  /-- Write what has no JSON form as the string of its text. -/
  textFallback : Bool

/-- One line, with a space after commas and colons. -/
def Layout.spaced : Layout where
  itemSeparator := ", "
  keySeparator := ": "
  indent := none
  floats := .json
  textFallback := false

/-- Two spaces per level, anything written somehow. -/
def Layout.pretty : Layout where
  itemSeparator := ","
  keySeparator := ": "
  indent := some 2
  floats := .json
  textFallback := true

/-- One line without spaces. -/
def Layout.compact : Layout where
  itemSeparator := ","
  keySeparator := ":"
  indent := none
  floats := .record
  textFallback := false

/-- Two spaces per level, for saved records. -/
def Layout.record : Layout where
  itemSeparator := ","
  keySeparator := ": "
  indent := some 2
  floats := .record
  textFallback := false

/-- The line break before an item at a nesting level, if lines are broken. -/
def Layout.lineBreak (layout : Layout) (level : Nat) : String :=
  match layout.indent with
  | some n => String.ofList ('\n' :: List.replicate (n * level) ' ')
  | none => ""

/-- Written parts between brackets, each on a line of its own if lines are broken. -/
def Layout.enclose (layout : Layout) (level : Nat) (opening closing : String)
    (parts : List String) : String :=
  if parts.isEmpty then opening ++ closing
  else
    let separator := layout.itemSeparator ++ layout.lineBreak (level + 1)
    opening ++ layout.lineBreak (level + 1) ++ separator.intercalate parts
      ++ layout.lineBreak level ++ closing

/-- The text of a scalar key; keys of other kinds have none. -/
def keyText (layout : Layout) : Datum → Except Fault String
  | .str s => .ok s
  | .bool true => .ok "true"
  | .bool false => .ok "false"
  | .null => .ok "null"
  | .int n => .ok (toString n)
  | .float x => .ok (layout.floats.write x)
  | d => .error (.noJsonKey d.ownType)

mutual

/-- The JSON text of a datum that stands at a nesting level. -/
def write (layout : Layout) (level : Nat) : Datum → Except Fault String
  | .null => .ok "null"
  | .bool true => .ok "true"
  | .bool false => .ok "false"
  | .int n => .ok (toString n)
  | .float x => .ok (layout.floats.write x)
  | .str s => .ok (quote s)
  | .list items => do
    pure (layout.enclose level "[" "]" (← writeItems layout (level + 1) items))
  | .tuple items => do
    pure (layout.enclose level "[" "]" (← writeItems layout (level + 1) items))
  | .map entries => do
    pure (layout.enclose level "\x7b" "\x7d" (← writeEntries layout (level + 1) entries))
  | d => if layout.textFallback then .ok (quote d.text) else .error (.noJson d.ownType)

def writeItems (layout : Layout) (level : Nat) : List Datum → Except Fault (List String)
  | [] => .ok []
  | item :: rest => do
    let s ← write layout level item
    let ss ← writeItems layout level rest
    pure (s :: ss)

def writeEntries (layout : Layout) (level : Nat) : List (Datum × Datum) → Except Fault (List String)
  | [] => .ok []
  | (key, item) :: rest => do
    let k ← keyText layout key
    let s ← write layout level item
    let ss ← writeEntries layout level rest
    pure ((quote k ++ layout.keySeparator ++ s) :: ss)

end

def print (layout : Layout) (d : Datum) : Except Fault String :=
  write layout 0 d

end Scaffold.Json
