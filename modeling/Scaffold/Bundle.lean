import Scaffold.Bundle.Sources
import Scaffold.Files.Edit
import Scaffold.Template.TemplateSet

namespace Scaffold

/-!
# The bundled template library

A library that comes with the program, for a project on AWS Amplify. It is
a directory like any other once it is put into a file tree.
-/

/-- A file of the bundled library and the path template that its entry has. -/
structure BundledTemplate where
  path : String
  file : String
  lines : List String

namespace Bundle

/-- Lines as a text, each with its line end. -/
def textOf (lines : List String) : String :=
  String.join (lines.map (· ++ "\n"))

/-- Storage has a file only where it is needed. -/
def storagePath : String :=
  "\x7b\x7b#if storageNeeded\x7d\x7damplify/storage/resource.ts\x7b\x7b/if\x7d\x7d"

/-- Observers have a file only where there are subscriptions. -/
def realtimePath : String :=
  "\x7b\x7b#if realTimeSubscriptions\x7d\x7dsrc/lib/realtime.ts\x7b\x7b/if\x7d\x7d"

/-- The entries of the bundled library, in order. A path that is rendered empty skips its file. -/
def templates : List BundledTemplate :=
  [ ⟨"package.json", "package.json.hbs", packageJson⟩
  , ⟨"README.md", "README.md.hbs", readme⟩
  , ⟨".gitignore", "gitignore.hbs", ignored⟩
  , ⟨"index.html", "index.html.hbs", indexHtml⟩
  , ⟨"amplify/backend.ts", "amplify/backend.ts.hbs", backend⟩
  , ⟨"amplify/auth/resource.ts", "amplify/auth/resource.ts.hbs", authResource⟩
  , ⟨"amplify/data/resource.ts", "amplify/data/resource.ts.hbs", dataResource⟩
  , ⟨storagePath, "amplify/storage/resource.ts.hbs", storageResource⟩
  , ⟨"src/main.tsx", "src/main.tsx.hbs", mainModule⟩
  , ⟨"src/App.tsx", "src/App.tsx.hbs", appModule⟩
  , ⟨"src/components/index.tsx", "src/components/index.tsx.hbs", componentsModule⟩
  , ⟨realtimePath, "src/lib/realtime.ts.hbs", realtimeModule⟩ ]

def manifest : String :=
  textOf manifestLines

/-- The template set that the bundled library holds. -/
def templateSet : TemplateSet where
  entries := templates.map fun b =>
    TemplateEntry.ofStrings b.path (textOf b.lines) (some b.file) .standard

def files : List (String × String) :=
  ("manifest.yaml", manifest) :: templates.map fun b => (b.file, textOf b.lines)

/-- A tree with the bundled library at a location. -/
def mount (t : FileTree) (l : Location) : FileTree :=
  files.foldl (fun t (name, text) => (t.writeWithin (l ++ PathName.partsOf name) text.toUTF8).1) t

end Bundle

end Scaffold
