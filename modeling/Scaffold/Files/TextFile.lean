import Scaffold.Files.Tree

namespace Scaffold

/-!
# Text files

Text files hold UTF-8. When one is read, all line ends become line feeds.
-/

inductive TextError
  | file (e : FileError)
  | notText
  /-- No file has a zero byte in its name. -/
  | zeroByte
  /-- The text writes a character, a number or a date that does not exist. -/
  | impossible
  /-- The text says what data cannot hold. -/
  | unsupported
  deriving DecidableEq, Repr

namespace TextError

def kind : TextError → String
  | .file e => e.kind
  | .notText => "UnicodeDecodeError"
  | .zeroByte | .impossible => "ValueError"
  | .unsupported => "UnsupportedText"

end TextError

namespace TextFile

/-- All line ends become line feeds. -/
def unifyLineEnds : List Char → List Char
  | [] => []
  | '\r' :: '\n' :: cs => '\n' :: unifyLineEnds cs
  | '\r' :: cs => '\n' :: unifyLineEnds cs
  | c :: cs => c :: unifyLineEnds cs

def decode? (content : ByteArray) : Option String :=
  (String.fromUTF8? content).map fun s => String.ofList (unifyLineEnds s.toList)

/-- The text of the file at the end of the names; `shown` is its name in messages. -/
def read (t : FileTree) (names : List String) (shown : String) : Except TextError String :=
  match t.read names with
  | .error trouble =>
    .error (if (PathName.ofNames names).hasZero then .zeroByte else .file ⟨trouble, shown⟩)
  | .ok content =>
    match decode? content with
    | some text => .ok text
    | none => .error .notText

end TextFile

end Scaffold
