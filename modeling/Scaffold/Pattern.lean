import Scaffold.Blueprint
import Scaffold.Validation

namespace Scaffold

/-!
# Patterns

A pattern request names a pattern and gives the decisions for it. Patterns
are looked up in a registry; a request for one that is not there falls
back on another, and the context says so.
-/

/-- A request for a project: the name of a pattern and the decisions. -/
structure PatternConfig where
  patternName : String
  decisions : Decisions
  deriving Repr

namespace PatternConfig

/-- A text, or a member of an enumeration that stands for one. -/
def textOf? : Datum → Option String
  | .str s => some s
  | .enum (.str s) => some s
  | .enum v => some v.text
  | _ => none

/-- The entries of a map of decisions, or the places of the keys that are no texts. -/
def readEntries (entries : List (Datum × Datum)) :
    List (String × Datum) × List Complaint :=
  entries.foldl
    (fun (done, complaints) (key, item) =>
      match textOf? key with
      | some name => (done ++ [(name, item)], complaints)
      | none => (done, complaints ++ [⟨["decisions", key.text, "[key]"], .stringType⟩]))
    ([], [])

def readDecisions : Datum → Except (List Complaint) Decisions
  | .map entries =>
    match readEntries entries with
    | (es, []) => .ok ⟨es⟩
    | (_, complaints) => .error complaints
  | .context entries => .ok ⟨entries.map fun (key, v) => (key, v.toDatum)⟩
  | _ => .error [⟨["decisions"], .mappingType⟩]

/-- Reads the name of a pattern, which may stand under either of two keys. -/
def readName (d : Datum) : Except (List Complaint) String :=
  match d.item? "patternName", d.item? "pattern_name" with
  | some v, _ =>
    match textOf? v with
    | some s => .ok s
    | none => .error [⟨["patternName"], .stringType⟩]
  | none, some v =>
    match textOf? v with
    | some s => .ok s
    | none => .error [⟨["pattern_name"], .stringType⟩]
  | none, none => .error [⟨["patternName"], .missing⟩]

/-- Reads a request; without decisions none are made. -/
def ofDatum (d : Datum) : Except ValidationError PatternConfig :=
  if !d.isMapping then .error ⟨"PatternConfig", [⟨[], .recordType⟩]⟩
  else
    let decisions :=
      match d.item? "decisions" with
      | some v => readDecisions v
      | none => .ok ⟨[]⟩
    match readName d, decisions with
    | .ok name, .ok decisions => .ok ⟨name, decisions⟩
    | .error cs, .ok _ => .error ⟨"PatternConfig", cs⟩
    | .ok _, .error cs => .error ⟨"PatternConfig", cs⟩
    | .error cs, .error ds => .error ⟨"PatternConfig", cs ++ ds⟩

end PatternConfig

/-- A function from decisions to a project, with the name it was made under. -/
structure Generator where
  name : String
  project : Decisions → Project

namespace Generator

def ofBlueprint (b : Blueprint) : Generator :=
  ⟨b.name, b.project⟩

end Generator

/-- Generators under the names by which they are asked for. -/
structure Patterns where
  entries : List (String × Generator)

/-- A pattern that is not there but has to be. -/
structure UnknownPattern where
  name : String
  deriving DecidableEq, Repr

def UnknownPattern.message (e : UnknownPattern) : String :=
  s!"Unknown architecture pattern: {Text.quote e.name}"

namespace Patterns

def builtIn : Patterns :=
  ⟨Blueprint.builtIn.map fun b => (b.name, .ofBlueprint b)⟩

def names (ps : Patterns) : List String :=
  ps.entries.map (·.1)

def size (ps : Patterns) : Nat :=
  ps.entries.length

def find? (ps : Patterns) (name : String) : Option Generator :=
  ps.entries.lookup name

def get (ps : Patterns) (name : String) : Except UnknownPattern Generator :=
  match ps.find? name with
  | some g => .ok g
  | none => .error ⟨name⟩

/-- An entry put in the place of one with its name, else at the end. -/
def putIn (name : String) (g : Generator) : List (String × Generator) → List (String × Generator)
  | [] => [(name, g)]
  | (n, h) :: rest => if n == name then (n, g) :: rest else (n, h) :: putIn name g rest

def register (ps : Patterns) (name : String) (g : Generator) : Patterns :=
  ⟨putIn name g ps.entries⟩

end Patterns

/-- Builds contexts from requests, with a generator for unknown patterns. -/
structure Builder where
  patterns : Patterns
  fallback : Generator

/-- A fallback that is not among the patterns. -/
structure UnknownFallback where
  name : String
  deriving DecidableEq, Repr

def UnknownFallback.message (e : UnknownFallback) : String :=
  s!"Fallback pattern {Text.quote e.name} is not registered"

namespace Builder

/-- The name of the usual fallback. -/
def usualFallback : String := "simple_crud"

/-- A builder over patterns among which is the fallback. -/
def make (patterns : Patterns) (fallback : String) : Except UnknownFallback Builder :=
  match patterns.find? fallback with
  | some g => .ok ⟨patterns, g⟩
  | none => .error ⟨fallback⟩

def standard : Builder :=
  ⟨.builtIn, .ofBlueprint .simpleCrud⟩

/-- The project of a request; that of an unknown pattern has a warning. -/
def project (b : Builder) (config : PatternConfig) : Project :=
  match b.patterns.find? config.patternName with
  | some g => g.project config.decisions
  | none =>
    let p := b.fallback.project config.decisions
    { p with warnings := p.warnings ++ [s!"unknown_pattern:{config.patternName}"] }

def build (b : Builder) (config : PatternConfig) : Context :=
  (b.project config).toContext

end Builder

end Scaffold
