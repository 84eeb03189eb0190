import Scaffold.Files.TextFile
import Scaffold.Output.Path
import Scaffold.Template.TemplateSet
import Scaffold.Yaml.Read

namespace Scaffold

/-!
# Template libraries

A library is a directory of template files. Its manifest lists the entries
in order; without one every template file is an entry, whose path is the
name of the file without its suffix.
-/

/-- A directory of template files. -/
structure Library where
  /-- The directory as it is named in messages. -/
  directory : PathName
  helpers : Helpers

inductive LibraryFlaw
  | noDirectory (directory : String)
  | badYaml (manifest : String)
  | noFileList (manifest : String)
  | noPath (manifest : String) (index : Nat)
  | badBody (manifest : String) (index : Nat)
  | escapes (e : UnsafePath)
  | noFile (path : String)
  deriving DecidableEq, Repr

def LibraryFlaw.message : LibraryFlaw → String
  | .noDirectory directory => s!"Template directory not found: {directory}"
  | .badYaml manifest => s!"Invalid YAML in {manifest}"
  | .noFileList manifest => s!"{manifest} must contain a 'files' list"
  | .noPath manifest index => s!"{manifest}: entry {index} needs a string 'path'"
  | .badBody manifest index => s!"{manifest}: entry {index} has a non-string 'body'"
  | .escapes e => s!"Template reference escapes the library: {e.message}"
  | .noFile path => s!"Template file not found: {path}"

inductive LibraryError
  | flaw (f : LibraryFlaw)
  | text (e : TextError)
  deriving DecidableEq, Repr

/-- An entry of a library. The body is the text of a file or what the manifest gives as content,
which may be any datum. -/
structure LibraryEntry where
  identifier : String
  path : String
  body : Datum

namespace LibraryEntry

/-- The source of the body. Empty collections read as empty sources; nothing else but text is
one. -/
def source (e : LibraryEntry) : Except Fault String :=
  match e.body with
  | .str s => .ok s
  | .list [] | .tuple [] | .map [] => .ok ""
  | .list _ | .tuple _ | .map _ => .error (.noOperation "find" e.body.ownType)
  | d => .error (.noLength d.ownType)

def template (e : LibraryEntry) (helpers : Helpers) : Except Fault TemplateEntry :=
  e.source.map fun body => TemplateEntry.ofStrings e.path body (some e.identifier) helpers

end LibraryEntry

namespace Library

def manifestName : String := "manifest.yaml"

def suffix : String := ".hbs"

/-- The names that lead to the library from a working directory. -/
def names (lib : Library) (cwd : Location) : List String :=
  lib.directory.namesFrom cwd

def manifestPath (lib : Library) : PathName :=
  lib.directory.join (.ofNames [manifestName])

/-- The template files below the directory, in the order of their names. -/
def list (lib : Library) (t : FileTree) (cwd : Location) : List String :=
  match t.walk (lib.names cwd) with
  | .there l .directory =>
    let found := (t.below l).filterMap fun (names, _) =>
      if suffix.toList.isSuffixOf (names.getLastD "").toList then some ("/".intercalate names)
      else none
    found.mergeSort fun a b => decide (a ≤ b)
  | _ => []

def read (lib : Library) (t : FileTree) (cwd : Location) (name : String) :
    Except LibraryError String :=
  match OutputPath.validate name with
  | .error e => .error (.flaw (.escapes e))
  | .ok () =>
    let path := lib.directory.join (.ofNames (PathName.partsOf name))
    let names := path.namesFrom cwd
    match t.findsFile names with
    | .error trouble => .error (.text (.file ⟨trouble, path.text⟩))
    | .ok false => .error (.flaw (.noFile path.text))
    | .ok true => (TextFile.read t names path.text).mapError .text

/-- The entry of a template file that no manifest lists. -/
def plainEntry (lib : Library) (t : FileTree) (cwd : Location) (name : String) :
    Except LibraryError LibraryEntry :=
  (lib.read t cwd name).map fun body =>
    ⟨name, String.ofList (name.toList.take (name.length - suffix.length)), .str body⟩

/-- One item of a manifest's list. -/
def listedEntry (lib : Library) (t : FileTree) (cwd : Location) (index : Nat) (item : Datum) :
    Except LibraryError LibraryEntry :=
  let manifest := lib.manifestPath.text
  match item.get? "path" with
  | some (.str path) =>
    let entry (reference : Option String) (body : Datum) : LibraryEntry :=
      let identifier :=
        match item.get? "id" with
        | some d => if d.isPresent then d.text else reference.getD path
        | none => reference.getD path
      ⟨identifier, path, body⟩
    match (item.get? "body").getD .null with
    | .null => .ok (entry none ((item.get? "content").getD (.str "")))
    | .str reference => (lib.read t cwd reference).map fun body => entry (some reference) (.str body)
    | _ => .error (.flaw (.badBody manifest index))
  | _ => .error (.flaw (.noPath manifest index))

def listedEntries (lib : Library) (t : FileTree) (cwd : Location) (manifest : Datum) :
    Except LibraryError (List LibraryEntry) :=
  match manifest.get? "files" with
  | some (.list items) =>
    items.zipIdx.mapM fun (item, index) => lib.listedEntry t cwd index item
  | _ => .error (.flaw (.noFileList lib.manifestPath.text))

def load (lib : Library) (t : FileTree) (cwd : Location) :
    Except LibraryError (List LibraryEntry) :=
  match t.findsDirectory (lib.names cwd) with
  | .error trouble => .error (.text (.file ⟨trouble, lib.directory.text⟩))
  | .ok false => .error (.flaw (.noDirectory lib.directory.text))
  | .ok true =>
    let manifest := lib.manifestPath
    let names := manifest.namesFrom cwd
    match t.contains names with
    | .error trouble => .error (.text (.file ⟨trouble, manifest.text⟩))
    | .ok false => (lib.list t cwd).mapM (lib.plainEntry t cwd)
    | .ok true =>
      match TextFile.read t names manifest.text with
      | .error e => .error (.text e)
      | .ok text =>
        match Yaml.parse text with
        | .error .malformed => .error (.flaw (.badYaml manifest.text))
        | .error .impossible => .error (.text .impossible)
        | .error .unsupported => .error (.text .unsupported)
        | .ok d => lib.listedEntries t cwd d

def templateSet (lib : Library) (entries : List LibraryEntry) : Except Fault TemplateSet :=
  (entries.mapM (LibraryEntry.template · lib.helpers)).map TemplateSet.mk

end Library

end Scaffold
