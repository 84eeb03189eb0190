import Scaffold.Bundle
import Scaffold.CommandLine.Command

namespace Scaffold.Program

/-!
# The program

The program takes a picture of the files that the command may look at,
runs the command on the picture, and then writes what the command changed.
-/

/-- Files as they are, and the locations below which nothing is missing. -/
structure Picture where
  tree : FileTree
  complete : List Location

/-- A location as an entry of the root directory. -/
def entryAt (l : Location) : IO.FS.DirEntry :=
  ⟨⟨""⟩, "/".intercalate l⟩

/-- What stands at a location. A link is taken for one to where it leads in the end. -/
def nodeAt? (l : Location) : IO (Option TreeNode) := do
  let path := (entryAt l).path
  try
    match (← path.symlinkMetadata).type with
    | .dir => pure (some .directory)
    | .file => pure (some (.file (← IO.FS.readBinFile path)))
    | .symlink => pure (some (.link (.ofString (← IO.FS.realPath path).toString)))
    | .other => pure none
  catch _ => pure none

/-- The names in a directory; in one that cannot be read there are none. -/
def namesIn (l : Location) : IO (List String) := do
  try
    let entries ← (entryAt l).path.readDir
    pure (entries.toList.map (·.fileName))
  catch _ => pure []

mutual

/-- Adds what stands at a location, above it and below it. -/
partial def photograph (p : Picture) (l : Location) : IO Picture := do
  if l ∈ p.complete then return p
  descend { p with complete := l :: p.complete } [] l

/-- Adds what is met on the way from a directory to a location, and all below that. -/
partial def descend (p : Picture) (here : Location) : Location → IO Picture
  | [] => do
    (← namesIn here).foldlM (fun p name => photograph p (here ++ [name])) p
  | name :: rest => do
    if name = ".." then return ← descend p here.dropLast rest
    let next := here ++ [name]
    match ← nodeAt? next with
    | none => pure p
    | some node =>
      let p := { p with tree := p.tree.put next node }
      match node with
      | .directory => descend p next rest
      | .file _ => pure p
      | .link target => if target.parts = next then pure p else photograph p (target.parts ++ rest)

end

/-- The picture with the places that some path names name. -/
def photographAll (p : Picture) (cwd : Location) (paths : List PathName) : IO Picture :=
  paths.foldlM (fun p path => photograph p (path.namesFrom cwd)) p

def namedPaths (a : Arguments) : List PathName :=
  ((a.config :: a.settings?.toList ++ a.report?.toList).filter (· != "")).map .ofString

/-- Writes what is new or changed. -/
def develop (old new : FileTree) : IO Unit :=
  new.entries.forM fun (l, node) => do
    let path := (entryAt l).path
    match node, old.node? l with
    | .directory, none => IO.FS.createDirAll path
    | .file content, some (.file before) =>
      if content != before then IO.FS.writeBinFile path content
    | .file content, _ => IO.FS.writeBinFile path content
    | _, _ => pure ()

/-! ## Showing -/

/-- The names of the styles that lines are marked up with. -/
def styles : List String :=
  ["bold", "bold red", "bold green", "bold yellow", "bold bright_cyan"]

/-- The text without its markup. -/
def withoutMarkup (text : String) : String :=
  styles.foldl (fun text style => (text.replace s!"[{style}]" "").replace s!"[/{style}]" "") text

/-- The lines of what is shown. -/
def linesOf : Shown → List String
  | .line text => [withoutMarkup text]
  | .rule title => ["", s!"---{withoutMarkup title}---", ""]
  | .panel title text => [withoutMarkup title, withoutMarkup text]
  | .table title columns rows =>
    title :: (columns :: rows).map fun cells => "  ".intercalate cells

def usage : String :=
  "\n".intercalate
    [ "usage: scaffold [-h] [--templates DIR] [--output DIR] [--lenient] [--dry-run]"
    , "                [--overwrite] [--timeout SECONDS] [--workers N]"
    , "                [--json-report [PATH]] [--settings FILE] config" ]

/-- The variables that settings are read from. -/
def variableNames : List String :=
  [ "ACE_RENDER_MODE", "ACE_MAX_WORKERS", "ACE_TIMEOUT", "ACE_TEMPLATE_DIR", "ACE_OUTPUT_DIR"
  , "ACE_OVERWRITE" ]

/-- Carries out arguments on the files of the computer. -/
def carryOut (args : List String) (a : Arguments) : IO UInt32 := do
  let start ← IO.monoMsNow
  let cwd := PathName.partsOf (← IO.currentDir).toString
  let bundle := (PathName.partsOf (← IO.appPath).toString).dropLast ++ ["templates"]
  let assignments ← variableNames.filterMapM fun name =>
    return (← IO.getEnv name).map fun v => (name, v)
  let env : Environment := { assignments := assignments, bundle := ⟨.root, bundle⟩ }
  let picture ← photographAll ⟨Bundle.mount ⟨[]⟩ bundle, []⟩ cwd (namedPaths a)
  let picture ←
    match Command.prepare env picture.tree cwd a with
    | .ok (_, settings) => photographAll picture cwd [settings.templates, settings.output]
    | .error _ => pure picture
  let elapsed := Double.ofFraction false ((← IO.monoMsNow) - start) 1000
  let env := { env with elapsed := .fraction elapsed }
  let (result, session) := (Command.run env args).runOn .plain ⟨cwd, picture.tree, []⟩
  develop picture.tree session.tree
  session.shown.forM fun s => (linesOf s).forM fun line => IO.println line
  match result with
  | .ok code => pure code.number.toUInt32
  | .error f => do
    IO.eprintln f.message
    pure 1

end Scaffold.Program

def main (args : List String) : IO UInt32 :=
  match Scaffold.Arguments.parse args with
  | .ok a => Scaffold.Program.carryOut args a
  | .error .help => do
    IO.println Scaffold.Program.usage
    pure 0
  | .error .misuse => do
    IO.eprintln Scaffold.Program.usage
    pure 2
