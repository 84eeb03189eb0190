import Scaffold.Output.FileSet
import Scaffold.Output.Report
import Scaffold.Quantity

namespace Scaffold

/-!
# Console output

What is shown to the user: lines with markup, rules, panels and tables. What
a user has written stands among the markup as it is, so that a console may
find markup there that it cannot read.
-/

/-- One thing shown on the console. -/
inductive Shown
  | line (text : String)
  | rule (title : String)
  | panel (title text : String)
  | table (title : String) (columns : List String) (rows : List (List String))
  deriving DecidableEq, Repr

/-- What shows things to the user, unless it cannot read their markup. -/
structure Console where
  shows : Shown → Bool

/-- A console that takes all markup as it stands. -/
def Console.plain : Console := ⟨fun _ => true⟩

namespace Shown

def header (title : String) : Shown :=
  .rule s!"[bold bright_cyan] {title} [/bold bright_cyan]"

def success (message : String) : Shown :=
  .line s!"[bold green]{message}[/bold green]"

def error (message : String) : Shown :=
  .line s!"[bold red]{message}[/bold red]"

def warning (message : String) : Shown :=
  .line s!"[bold yellow]{message}[/bold yellow]"

def summaryTitle : String := "Summary"

/-- A table of labels and values. -/
def summary (title : String) (rows : List (String × String)) : Shown :=
  .table title ["Item", "Value"] (rows.map fun (label, value) => [label, value])

def fileSet (s : FileSet) : Shown :=
  .table "Generated files" ["#", "Path", "Size"]
    (s.files.mapIdx fun i f => [toString (i + 1), f.path, formatSize f.content.utf8ByteSize])

/-- Where a failure is, as line and column. -/
def place : Option Position → String
  | some p => s!"{p.line}:{p.column}"
  | none => ""

def report (r : Report) : Shown :=
  .table s!"Generation failed: {r.entries.length} error(s)"
    ["File", "Part", "Kind", "Where", "Message"]
    (r.entries.map fun e => [e.file, e.part, e.kind, place e.position, e.message])

end Shown

end Scaffold
