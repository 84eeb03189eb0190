import Scaffold.Number.Spelled
import Scaffold.Settings

namespace Scaffold

/-!
# Arguments of the command line

Arguments are read in two passes. First each one is taken for a switch, a
separator or a plain text on its own; then the switches take the plain
texts that follow them, and one plain text is left for the configuration
file. A long switch may be cut short as long as only one is meant.
-/

inductive Switch
  | help
  | templates
  | output
  | lenient
  | dryRun
  | overwrite
  | timeout
  | workers
  | jsonReport
  | settings
  deriving DecidableEq, Repr

/-- How many texts a switch takes. -/
inductive Arity
  | none
  | one
  | atMostOne
  deriving DecidableEq, Repr

namespace Switch

def arity : Switch → Arity
  | .help | .lenient | .dryRun | .overwrite => .none
  | .templates | .output | .timeout | .workers | .settings => .one
  | .jsonReport => .atMostOne

def longSpellings : List (List Char × Switch) :=
  [ ("--help".toList, .help), ("--templates".toList, .templates), ("--output".toList, .output)
  , ("--lenient".toList, .lenient), ("--dry-run".toList, .dryRun)
  , ("--overwrite".toList, .overwrite), ("--timeout".toList, .timeout)
  , ("--workers".toList, .workers), ("--json-report".toList, .jsonReport)
  , ("--settings".toList, .settings) ]

/-- The letters that spell a switch behind a single dash. -/
def ofLetter? (c : Char) : Option Switch :=
  if c = 'h' then some .help
  else if c = 't' then some .templates
  else if c = 'o' then some .output
  else none

/-- The switch that a text spells in full. -/
def ofSpelling? : List Char → Option Switch
  | ['-', c] => ofLetter? c
  | s => longSpellings.lookup s

/-- The switches with a long spelling that starts like this. -/
def completions (start : List Char) : List Switch :=
  (longSpellings.filter fun (spelling, _) => start.isPrefixOf spelling).map (·.2)

end Switch

/-- Why arguments are not carried out: they make no sense, or they ask for help. -/
inductive ArgumentStop
  | misuse
  | help
  deriving DecidableEq, Repr

/-- What an argument is on its own. -/
inductive Word
  | plain (text : String)
  /-- Two dashes; everything behind them is plain. -/
  | separator
  | switch (s : Switch) (value? : Option String)
  /-- Letters behind a single dash, the first of which asked for help. -/
  | afterHelp (letters : List Char)
  | unknown
  deriving DecidableEq, Repr

namespace Word

def isNegativeNumber : List Char → Bool
  | '-' :: cs =>
    let digits := cs.takeWhile Text.isDecimal
    match cs.dropWhile Text.isDecimal with
    | [] => !digits.isEmpty
    | '.' :: places => !places.isEmpty && places.all Text.isDecimal
    | _ => false
  | _ => false

/-- A switch with a value that stands in the same argument. -/
def withValue (short : Bool) (s : Switch) (value : List Char) : Word :=
  if short && s = .help then .afterHelp value else .switch s (some (String.ofList value))

/-- An argument that spells no switch in full and is none with a value behind an equals sign. -/
def ofPartial (arg : List Char) : Except ArgumentStop Word :=
  let otherwise : Word :=
    if isNegativeNumber arg || ' ' ∈ arg then .plain (String.ofList arg) else .unknown
  match arg with
  | '-' :: '-' :: _ =>
    let (start, value?) :=
      match Text.cutAt? ['='] arg with
      | some (start, value) => (start, some (String.ofList value))
      | none => (arg, none)
    match Switch.completions start with
    | [s] => .ok (.switch s value?)
    | [] => .ok otherwise
    | _ => .error .misuse
  | '-' :: c :: value =>
    match Switch.ofLetter? c with
    | some s => .ok (withValue true s value)
    | none => .ok otherwise
  | _ => .ok otherwise

/-- What an argument in front of all separators is. -/
def ofChars (arg : List Char) : Except ArgumentStop Word :=
  if arg.head? != some '-' || arg = ['-'] then .ok (.plain (String.ofList arg))
  else
    match Switch.ofSpelling? arg with
    | some s => .ok (.switch s none)
    | none =>
      match Text.cutAt? ['='] arg with
      | some (start, value) =>
        match Switch.ofSpelling? start with
        | some s => .ok (withValue (start.length = 2) s value)
        | none => ofPartial arg
      | none => ofPartial arg

/-- What each argument is. -/
def ofArguments : List String → Except ArgumentStop (List Word)
  | [] => .ok []
  | "--" :: rest => .ok (.separator :: rest.map .plain)
  | arg :: rest => do
    let word ← ofChars arg.toList
    let words ← ofArguments rest
    pure (word :: words)

end Word

structure Arguments where
  config : String
  overrides : Overrides := {}
  dryRun : Bool := false
  /-- Save a report of a failed run; without a text, where reports usually go. -/
  report? : Option String := none
  settings? : Option String := none
  deriving DecidableEq, Repr

namespace Arguments

/-- The arguments read so far. -/
structure Draft where
  config? : Option String := none
  overrides : Overrides := {}
  dryRun : Bool := false
  report? : Option String := none
  settings? : Option String := none
  /-- Something was read that has no use. -/
  excess : Bool := false

namespace Draft

/-- A plain text that no switch takes. -/
def addPlain (d : Draft) (text : String) : Draft :=
  match d.config? with
  | none => { d with config? := some text }
  | some _ => { d with excess := true }

/-- A switch that takes no text. -/
def addSwitch (d : Draft) : Switch → Except ArgumentStop Draft
  | .help => .error .help
  | .lenient => .ok { d with overrides.lenient := true }
  | .dryRun => .ok { d with dryRun := true }
  | .overwrite => .ok { d with overrides.overwrite := true }
  | .jsonReport => .ok { d with report? := some "" }
  | _ => .error .misuse

/-- A switch with the text that it takes. -/
def addValue (d : Draft) (value : String) : Switch → Except ArgumentStop Draft
  | .templates => .ok { d with overrides.templates := some value }
  | .output => .ok { d with overrides.output := some value }
  | .settings => .ok { d with settings? := some value }
  | .jsonReport => .ok { d with report? := some value }
  | .timeout =>
    match Number.typedDouble? value with
    | some x => .ok { d with overrides.limit := some x }
    | none => .error .misuse
  | .workers =>
    match Number.typedInt? value with
    | some n => .ok { d with overrides.workers := some n }
    | none => .error .misuse
  | _ => .error .misuse

def finish (d : Draft) : Except ArgumentStop Arguments :=
  match d.config? with
  | some config =>
    if d.excess then .error .misuse
    else .ok ⟨config, d.overrides, d.dryRun, d.report?, d.settings?⟩
  | none => .error .misuse

end Draft

/-- Letters behind one that asks for help: all of them have to be switches, and one that takes a
text has to have it. -/
def stopAfterHelp (next : List Word) : List Char → ArgumentStop
  | [] => .misuse
  | c :: cs =>
    match Switch.ofLetter? c, cs, next with
    | some .help, [], _ => .help
    | some .help, cs, _ => stopAfterHelp next cs
    | some _, [], .plain _ :: _ => .help
    | some _, [], _ => .misuse
    | some _, _, _ => .help
    | none, _, _ => .misuse

/-- Reads the words in order. -/
def collect (d : Draft) : List Word → Except ArgumentStop Draft
  | [] => .ok d
  | .plain text :: .separator :: rest =>
    collect (d.addPlain text) rest
  | .plain text :: rest => collect (d.addPlain text) rest
  | .separator :: .plain text :: rest => collect (d.addPlain text) rest
  | .separator :: rest => collect { d with excess := true } rest
  | .unknown :: rest => collect { d with excess := true } rest
  | .afterHelp letters :: rest => .error (stopAfterHelp rest letters)
  | .switch s (some value) :: rest => do
    let d ← d.addValue value s
    collect d rest
  | .switch s none :: rest =>
    match s.arity, rest with
    | .none, rest => do
      let d ← d.addSwitch s
      collect d rest
    | _, .plain value :: rest => do
      let d ← d.addValue value s
      collect d rest
    | .one, _ => .error .misuse
    | .atMostOne, rest => do
      let d ← d.addSwitch s
      collect d rest

def parse (args : List String) : Except ArgumentStop Arguments := do
  let words ← Word.ofArguments args
  let draft ← collect {} words
  draft.finish

end Arguments

end Scaffold
