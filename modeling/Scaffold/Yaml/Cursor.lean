namespace Scaffold.Yaml

/-!
# Places in a YAML text

In YAML the column of a token decides to what it belongs, so that a reader
has to know where it is: the characters to come, with line and column.
-/

/-- A place in a text; lines and columns count from zero. -/
structure Cursor where
  rest : List Char
  line : Nat
  column : Nat
  deriving Repr, Inhabited

def isBreak (c : Char) : Bool :=
  c == '\n' || c == '\r' || c == '\x85' || c == '\u2028' || c == '\u2029'

/-- The line break as it stands in a value. -/
def breakChar (c : Char) : Char :=
  if c == '\u2028' || c == '\u2029' then c else '\n'

/-- Blanks and line breaks separate tokens. -/
def isSeparator (c : Char) : Bool :=
  c == ' ' || c == '\t' || isBreak c

/-- Does a text end here or go on with a separator? -/
def isSeparated : List Char → Bool
  | [] => true
  | c :: _ => isSeparator c

/-- Does a line with a marker between documents start here? -/
def isMarker (s : List Char) : Bool :=
  ("---".toList.isPrefixOf s || "...".toList.isPrefixOf s) && isSeparated (s.drop 3)

def isAllowed (c : Char) : Bool :=
  c == '\t' || c == '\n' || c == '\r' || c == '\x85' || (' ' ≤ c && c ≤ '~')
    || ('\xa0' ≤ c && c ≤ '\ufffd') || '\uffff' < c

namespace Cursor

def start (s : List Char) : Cursor := ⟨s, 0, 0⟩

def atEnd (k : Cursor) : Bool := k.rest.isEmpty

/-- The place behind the next character. -/
def next (k : Cursor) : Cursor :=
  match k.rest with
  | [] => k
  | c :: cs => if isBreak c then ⟨cs, k.line + 1, 0⟩ else ⟨cs, k.line, k.column + 1⟩

/-- The place behind `n` more characters. -/
def forward (k : Cursor) : Nat → Cursor
  | 0 => k
  | n + 1 => k.next.forward n

def atMarker (k : Cursor) : Bool :=
  k.column == 0 && isMarker k.rest

/-- Skips what stands between tokens from a place in a line on. -/
def skipFrom (line column : Nat) (inComment : Bool) : List Char → Cursor
  | [] => ⟨[], line, column⟩
  | c :: cs =>
    if isBreak c then skipFrom (line + 1) 0 false cs
    else if inComment || c == ' ' then skipFrom line (column + 1) inComment cs
    else if c == '#' then skipFrom line (column + 1) true cs
    else ⟨c :: cs, line, column⟩

/-- The place of the next token: spaces, comments and empty lines are skipped. -/
def skip (k : Cursor) : Cursor :=
  skipFrom k.line k.column false k.rest

def skipSpaces (k : Cursor) : Cursor :=
  let spaces := (k.rest.takeWhile (· == ' ')).length
  ⟨k.rest.drop spaces, k.line, k.column + spaces⟩

/-- Is there nothing more than a comment on the line? -/
def atLineEnd (k : Cursor) : Bool :=
  match k.skipSpaces.rest with
  | [] => true
  | c :: _ => isBreak c || c == '#'

/-- Does an entry of a block list start here? -/
def atDash (k : Cursor) : Bool :=
  match k.rest with
  | '-' :: cs => isSeparated cs
  | _ => false

/-- Does a colon that ends a block key stand here? -/
def atColon (k : Cursor) : Bool :=
  match k.rest with
  | ':' :: cs => isSeparated cs
  | _ => false

end Cursor

end Scaffold.Yaml
