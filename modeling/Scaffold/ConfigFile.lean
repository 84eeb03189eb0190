import Scaffold.Files.Edit
import Scaffold.Files.TextFile
import Scaffold.Json.Print
import Scaffold.Json.Read
import Scaffold.Text.Case
import Scaffold.Yaml.Read

namespace Scaffold

/-!
# Configuration files

Configuration comes as YAML, in files with the suffix `.yaml` or `.yml`, or
as JSON, in all others. What is no map is put under the key `_root` of one.
-/

inductive ConfigFormat
  | json
  | yaml
  deriving DecidableEq, Repr

inductive ConfigFileError
  | text (e : TextError)
  | json
  | yaml
  deriving DecidableEq, Repr

def ConfigFileError.kind : ConfigFileError → String
  | .text e => e.kind
  | .json => "JSONDecodeError"
  | .yaml => "YAMLError"

namespace ConfigFile

def formatOf (p : PathName) : ConfigFormat :=
  if Text.lower p.suffix.toList ∈ [".yaml".toList, ".yml".toList] then .yaml else .json

def asMap : Datum → Datum
  | .map entries => .map entries
  | d => .map [(.str "_root", d)]

/-- The failure of a text that is read as no datum; `malformed` is that of its format. -/
def failure (malformed : ConfigFileError) : NoDatum → ConfigFileError
  | .malformed => malformed
  | .impossible => .text .impossible
  | .unsupported => .text .unsupported

/-- Reads configuration text. An empty YAML document is an empty map. -/
def parse (format : ConfigFormat) (text : String) : Except ConfigFileError Datum :=
  match format with
  | .json => ((Json.parse text).map asMap).mapError (failure .json)
  | .yaml =>
    match Yaml.parse text with
    | .ok .null => .ok (.map [])
    | .ok d => .ok (asMap d)
    | .error why => .error (failure .yaml why)

def load (t : FileTree) (cwd : Location) (format : ConfigFormat) (p : PathName) :
    Except ConfigFileError Datum :=
  match TextFile.read t (p.namesFrom cwd) p.text with
  | .error e => .error (.text e)
  | .ok text => parse format text

/-- Why data is not saved. -/
inductive SaveError
  | fault (f : Fault)
  | file (e : FileError)
  deriving DecidableEq, Repr

/-- The text of names seen from where they were given. -/
def shown (cwd : Location) (p : PathName) (names : List String) : String :=
  if p.isAbsolute then (PathName.mk p.anchor names).text
  else (PathName.ofNames (names.drop cwd.length)).text

/-- Writes a text file and makes the directories above it. -/
def saveText (t : FileTree) (cwd : Location) (p : PathName) (text : String) :
    FileTree × Except SaveError Unit :=
  match t.writeWithin (p.namesFrom cwd) text.toUTF8 with
  | (t, none) => (t, .ok ())
  | (t, some (trouble, names)) => (t, .error (.file ⟨trouble, shown cwd p names⟩))

/-- Saves data as JSON. The directories are made before the data is looked at. -/
def saveJson (layout : Json.Layout) (t : FileTree) (cwd : Location) (p : PathName) (d : Datum) :
    FileTree × Except SaveError Unit :=
  if p.parent.hasZero then (t, .error (.fault .zeroByte))
  else
    match t.makeDirectories (p.parent.namesFrom cwd) with
    | (t, some (trouble, names)) => (t, .error (.file ⟨trouble, shown cwd p names⟩))
    | (t, none) =>
      match Json.print layout d with
      | .error f => (t, .error (.fault f))
      | .ok text =>
        if p.hasZero then (t, .error (.fault .zeroByte)) else saveText t cwd p text

end ConfigFile

end Scaffold
