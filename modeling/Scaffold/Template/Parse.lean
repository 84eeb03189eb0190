import Scaffold.Template.Node
import Scaffold.Template.Span

namespace Scaffold

/-!
# Parsing templates

The tokens of a source are read one by one into a place in a growing
template: the nodes read so far and the blocks that are open around them.
The first token that does not fit is the error.
-/

/-- What is wrong with a source. -/
inductive Flaw
  | unclosed (what : Unclosed)
  | unclosedBlock (kind : BlockKind) (path : Path)
  | strayElse
  | secondElse (kind : BlockKind)
  | closeWithoutOpen (name : String)
  | closeOfOther (name : String) (kind : BlockKind) (opened : Position)
  | unknownBlock (keyword : String)
  | argumentCount (keyword : String) (count : Nat)
  | emptyTag
  | unknownHelper (name : String)
  | badPath (raw : String) (flaw : PathFlaw)
  deriving DecidableEq, Repr

inductive FlawKind
  | unterminatedBlock
  | mismatchedBlock
  | misplacedElse
  | unknownHelper
  | invalidPath
  | unterminatedTag
  | unknownBlock
  deriving DecidableEq, Repr

def FlawKind.name : FlawKind → String
  | .unterminatedBlock => "UnterminatedBlock"
  | .mismatchedBlock => "MismatchedBlock"
  | .misplacedElse => "MisplacedElse"
  | .unknownHelper => "UnknownHelper"
  | .invalidPath => "InvalidPath"
  | .unterminatedTag => "UnterminatedTag"
  | .unknownBlock => "UnknownBlock"

namespace Flaw

def kind : Flaw → FlawKind
  | .unclosed _ => .unterminatedTag
  | .unclosedBlock .. => .unterminatedBlock
  | .strayElse | .secondElse _ => .misplacedElse
  | .closeWithoutOpen _ | .closeOfOther .. => .mismatchedBlock
  | .unknownBlock _ => .unknownBlock
  | .argumentCount .. | .emptyTag | .badPath .. => .invalidPath
  | .unknownHelper _ => .unknownHelper

/-- A tag as messages show it. -/
def tagText (content : String) : String :=
  "\x7b\x7b" ++ content ++ "\x7d\x7d"

def message : Flaw → String
  | .unclosed .tag => "Tag opened with '\x7b\x7b' is never closed with '\x7d\x7d'"
  | .unclosed .longComment =>
    "Comment opened with '\x7b\x7b!--' is never closed with '--\x7d\x7d'"
  | .unclosedBlock kind path =>
    tagText ("#" ++ kind.keyword ++ " " ++ path.dotted) ++ " is never closed"
  | .strayElse =>
    tagText "else" ++ " is only allowed inside " ++ tagText "#if" ++ " or " ++ tagText "#unless"
  | .secondElse kind =>
    "Second " ++ tagText "else" ++ " in " ++ tagText ("#" ++ kind.keyword) ++ " block"
  | .closeWithoutOpen name => tagText ("/" ++ name) ++ " closes a block that was never opened"
  | .closeOfOther name kind opened =>
    tagText ("/" ++ name) ++ " does not match " ++ tagText ("#" ++ kind.keyword) ++ " opened at "
      ++ opened.text
  | .unknownBlock keyword => s!"Unknown block '#{keyword}' (expected #if, #unless or #each)"
  | .argumentCount keyword count =>
    tagText ("#" ++ keyword) ++ s!" takes exactly one path, got {count}"
  | .emptyTag => "Empty tag '\x7b\x7b\x7d\x7d'"
  | .unknownHelper name => s!"Unknown helper {Text.quote name}"
  | .badPath raw flaw => s!"Invalid path {Text.quote raw}: {flaw.message}"

end Flaw

structure ParseError where
  flaw : Flaw
  position : Position
  deriving DecidableEq, Repr

def ParseError.message (e : ParseError) : String :=
  e.flaw.message

/-- What a tag asks for. -/
inductive Tag
  | orElse
  | opening (kind : BlockKind) (path : Path)
  | closing (name : String)
  | interpolation (path : Path) (helpers : List String)
  deriving DecidableEq, Repr

namespace Tag

def readPath (raw : List Char) : Except Flaw Path :=
  match Path.parse raw with
  | .ok path => .ok path
  | .error flaw => .error (.badPath (String.ofList raw) flaw)

/-- A keyword ends at the first space; all that follows are its arguments. -/
def cutKeyword (content : List Char) : List Char × List Char :=
  (Text.cutAt? [' '] content).getD (content, [])

/-- Reads the content of an opening tag behind its `#`. -/
def readOpening (content : List Char) : Except Flaw Tag :=
  let (word, arguments) := cutKeyword content
  match BlockKind.ofKeyword? word with
  | none => .error (.unknownBlock (String.ofList word))
  | some kind =>
    match Text.fields arguments with
    | [raw] => (readPath raw).map (.opening kind)
    | fields => .error (.argumentCount kind.keyword fields.length)

/-- Reads an interpolation: helpers and at the end a path. -/
def readInterpolation (known : String → Bool) (content : List Char) : Except Flaw Tag :=
  match (Text.fields content).reverse with
  | [] => .error .emptyTag
  | raw :: before =>
    let helpers := before.reverse.map String.ofList
    match helpers.find? (!known ·) with
    | some name => .error (.unknownHelper name)
    | none => (readPath raw).map (.interpolation · helpers)

/-- Reads the trimmed content of a tag. -/
def read (known : String → Bool) (content : List Char) : Except Flaw Tag :=
  if content = "else".toList then .ok .orElse
  else
    match content with
    | '#' :: rest => readOpening (Text.trim rest)
    | '/' :: rest => .ok (.closing (String.ofList (Text.trim rest)))
    | _ => readInterpolation known content

end Tag

/-- An open block: what its tag said, the nodes in front of it, newest first, and its first branch
once the second has begun. -/
structure Frame where
  kind : BlockKind
  path : Path
  position : Position
  before : List Node
  first : Option (List Node)

/-- A place in a growing template: the open blocks, innermost first, and the nodes read in the
innermost one, newest first. -/
structure Place where
  frames : List Frame
  nodes : List Node

namespace Frame

/-- The node of a block whose last branch is complete. -/
def close (f : Frame) (branch : List Node) : Node :=
  match f.kind, f.first with
  | .conditional negated, none => .conditional negated f.path branch none f.position
  | .conditional negated, some body => .conditional negated f.path body (some branch) f.position
  | .loop, _ => .loop f.path branch f.position

end Frame

namespace Place

def start : Place := ⟨[], []⟩

/-- Text joins the text in front of it. -/
def addText (p : Place) (s : String) (pos : Position) : Place :=
  match p.nodes with
  | .text t q :: rest => { p with nodes := .text (t ++ s) q :: rest }
  | nodes => { p with nodes := .text s pos :: nodes }

/-- The place behind a tag. -/
def addTag (p : Place) (pos : Position) : Tag → Except Flaw Place
  | .orElse =>
    match p.frames with
    | f :: outer =>
      if f.kind = .loop then .error .strayElse
      else if f.first.isSome then .error (.secondElse f.kind)
      else .ok ⟨{ f with first := some p.nodes.reverse } :: outer, []⟩
    | [] => .error .strayElse
  | .opening kind path => .ok ⟨⟨kind, path, pos, p.nodes, none⟩ :: p.frames, []⟩
  | .closing name =>
    match p.frames with
    | [] => .error (.closeWithoutOpen name)
    | f :: outer =>
      if name = f.kind.keyword then .ok ⟨outer, f.close p.nodes.reverse :: f.before⟩
      else .error (.closeOfOther name f.kind f.position)
  | .interpolation path helpers => .ok { p with nodes := .interpolation path helpers pos :: p.nodes }

/-- The place behind a token. -/
def step (known : String → Bool) (p : Place) : Token × Position → Except ParseError Place
  | (.text s, pos) => .ok (p.addText s pos)
  | (.tag content, pos) =>
    match Tag.read known content >>= p.addTag pos with
    | .ok q => .ok q
    | .error flaw => .error ⟨flaw, pos⟩

/-- The template at the end of a source. -/
def finish (p : Place) : Except ParseError (List Node) :=
  match p.frames with
  | [] => .ok p.nodes.reverse
  | f :: _ => .error ⟨.unclosedBlock f.kind f.path, f.position⟩

end Place

def TokenStream.parse (known : String → Bool) (stream : TokenStream) :
    Except ParseError (List Node) := do
  let place ← stream.tokens.foldlM (Place.step known) Place.start
  match stream.unclosed with
  | some (what, pos) => .error ⟨.unclosed what, pos⟩
  | none => place.finish

/-- Parses a source; `known` says which helpers there are. -/
def Node.parse (known : String → Bool) (source : String) : Except ParseError (List Node) :=
  (Token.tokenize source).parse known

end Scaffold
