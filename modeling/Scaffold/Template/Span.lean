import Scaffold.Position
import Scaffold.Text.Blank

namespace Scaffold

/-!
# Spans of a source

A source falls into text, tags between double braces and comments. Tags
end at the first double closing brace; a long comment, which may hold
braces, ends at the first two hyphens and closing braces. Spans keep every
character, so put together they give the source back.
-/

inductive Span
  | text (chars : List Char)
  | tag (inner : List Char)
  | longComment (inner : List Char)
  deriving DecidableEq, Repr

/-- What a source leaves open at its end. -/
inductive Unclosed
  | tag
  | longComment
  deriving DecidableEq, Repr

namespace Span

/-- The characters that a span takes up in the source. -/
def source : Span → List Char
  | .text chars => chars
  | .tag inner => '{' :: '{' :: inner ++ ['}', '}']
  | .longComment inner => '{' :: '{' :: '!' :: '-' :: '-' :: inner ++ ['-', '-', '}', '}']

/-- What is being read, with its characters so far, the last one first. -/
inductive Reading
  | text (read : List Char)
  | tag (read : List Char)
  | longComment (read : List Char)

/-- The text read so far as a span, unless it is empty. -/
def flush (read : List Char) : List Span :=
  if read.isEmpty then [] else [.text read.reverse]

/-- The spans of a source from inside a piece on, and what is left open at the end. -/
def scanFrom : Reading → List Char → List Span × Option Unclosed
  | .text read, [] => (flush read, none)
  | .text read, '{' :: '{' :: '!' :: '-' :: '-' :: rest =>
    let (spans, open?) := scanFrom (.longComment []) rest
    (flush read ++ spans, open?)
  | .text read, '{' :: '{' :: rest =>
    let (spans, open?) := scanFrom (.tag []) rest
    (flush read ++ spans, open?)
  | .text read, c :: rest => scanFrom (.text (c :: read)) rest
  | .tag _, [] => ([], some .tag)
  | .tag read, '}' :: '}' :: rest =>
    let (spans, open?) := scanFrom (.text []) rest
    (.tag read.reverse :: spans, open?)
  | .tag read, c :: rest => scanFrom (.tag (c :: read)) rest
  | .longComment _, [] => ([], some .longComment)
  | .longComment read, '-' :: '-' :: '}' :: '}' :: rest =>
    let (spans, open?) := scanFrom (.text []) rest
    (.longComment read.reverse :: spans, open?)
  | .longComment read, c :: rest => scanFrom (.longComment (c :: read)) rest

/-- The spans of a source, up to what is left open. -/
def scan (source : List Char) : List Span × Option Unclosed :=
  scanFrom (.text []) source

end Span

/-- What the parser sees of a source: text as it is and tags without the blanks around them. -/
inductive Token
  | text (s : String)
  | tag (content : List Char)
  deriving DecidableEq, Repr

/-- The tokens of a source with their positions, and the place of what is left open. -/
structure TokenStream where
  tokens : List (Token × Position)
  unclosed : Option (Unclosed × Position)
  deriving Repr

namespace Token

/-- The token of a span; comments have none. -/
def ofSpan? : Span → Option Token
  | .text chars => some (.text (String.ofList chars))
  | .tag inner =>
    let content := Text.trim inner
    if content.head? == some '!' then none else some (.tag content)
  | .longComment _ => none

/-- The tokens of spans that start at a position. -/
def place (p : Position) : List Span → List (Token × Position)
  | [] => []
  | span :: rest =>
    let placed := place (p.advance span.source) rest
    match ofSpan? span with
    | some token => (token, p) :: placed
    | none => placed

def tokenize (source : String) : TokenStream :=
  let (spans, unclosed) := Span.scan source.toList
  { tokens := place .start spans
    unclosed := unclosed.map fun u => (u, Position.start.advance (spans.flatMap Span.source)) }

end Token

end Scaffold
