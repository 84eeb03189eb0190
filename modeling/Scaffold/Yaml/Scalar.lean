import Scaffold.Datum
import Scaffold.Json.Read
import Scaffold.Text.Cut
import Scaffold.Yaml.Cursor
import Scaffold.Yaml.Timestamp

namespace Scaffold.Yaml

/-!
# YAML scalars

Plain scalars, quoted ones and blocks of text, and the values that plain
scalars stand for: null, booleans, whole numbers in several bases, floats
and, for all others, their own text.
-/

/-- A scalar that has been read: its text, the place behind it and the line of its last
character. -/
structure Scalar where
  text : List Char
  behind : Cursor
  lastLine : Nat

/-- Line breaks between words: one alone is a space, of several the first is dropped. The breaks
after the first are given last one first. -/
def fold (first : Char) (more : List Char) : List Char :=
  if first != '\n' then first :: more.reverse
  else if more.isEmpty then [' ']
  else more.reverse

/-! ## Plain scalars -/

/-- Brackets, braces and commas. -/
def isFlowMark (c : Char) : Bool :=
  c == ',' || c == '[' || c == ']' || c == '\x7b' || c == '\x7d'

/-- Does a plain scalar end before the character `c`? -/
def endsPlain (flow : Bool) (c : Char) (after : List Char) : Bool :=
  isSeparator c
    || (c == ':' && (isSeparated after || (flow && after.head?.any isFlowMark)))
    || (flow && (isFlowMark c || c == '?'))

/-- Can a plain scalar start here? -/
def startsPlain (flow : Bool) : List Char → Bool
  | [] => false
  | c :: cs =>
    if c == '-' then !isSeparated cs
    else if c == '?' || c == ':' then !flow && !isSeparated cs
    else !isSeparator c && !isFlowMark c && c ∉ "#&*!|>'\"%@\x60".toList

/-- Where the reading of a plain scalar is: in a word, in spaces behind one, or in line breaks
behind one. -/
inductive PlainPart
  | word
  | spaces (read : List Char)
  | breaks (first : Char) (more : List Char)

/-- Reads a plain scalar on. `read` is the text so far, last character first; `indent` is the
column that further lines of the scalar have to reach. -/
def plainFrom (flow : Bool) (indent : Nat) (read : List Char) (lastLine : Nat) :
    PlainPart → (line column : Nat) → List Char → Scalar
  | _, line, column, [] => ⟨read.reverse, ⟨[], line, column⟩, lastLine⟩
  | part, line, column, c :: cs =>
    let stop : Scalar := ⟨read.reverse, ⟨c :: cs, line, column⟩, lastLine⟩
    let atNewLine (first : Char) (more : List Char) : Scalar :=
      if isMarker cs then ⟨read.reverse, ⟨cs, line + 1, 0⟩, lastLine⟩
      else plainFrom flow indent read lastLine (.breaks first more) (line + 1) 0 cs
    let inWord (before : List Char) : Scalar :=
      if endsPlain flow c cs then stop
      else plainFrom flow indent (c :: before) line .word line (column + 1) cs
    match part with
    | .word =>
      if c == ' ' then plainFrom flow indent read lastLine (.spaces [c]) line (column + 1) cs
      else if isBreak c then atNewLine (breakChar c) []
      else inWord read
    | .spaces sp =>
      if c == ' ' then plainFrom flow indent read lastLine (.spaces (c :: sp)) line (column + 1) cs
      else if isBreak c then atNewLine (breakChar c) []
      else if c == '#' then stop
      else inWord (sp ++ read)
    | .breaks first more =>
      if c == ' ' then
        plainFrom flow indent read lastLine (.breaks first more) line (column + 1) cs
      else if isBreak c then atNewLine first (breakChar c :: more)
      else if c == '#' || (!flow && column < indent) then stop
      else inWord ((fold first more).reverse ++ read)

def readPlain (flow : Bool) (indent : Nat) (k : Cursor) : Scalar :=
  plainFrom flow indent [] k.line .word k.line k.column k.rest

/-! ## Quoted scalars -/

/-- What a character after a backslash stands for. -/
def unescape? : Char → Option Char
  | '0' => some '\x00'
  | 'a' => some '\x07'
  | 'b' => some '\x08'
  | 't' | '\t' => some '\t'
  | 'n' => some '\n'
  | 'v' => some '\x0b'
  | 'f' => some '\x0c'
  | 'r' => some '\r'
  | 'e' => some '\x1b'
  | ' ' => some ' '
  | '"' => some '"'
  | '\\' => some '\\'
  | '/' => some '/'
  | 'N' => some '\x85'
  | '_' => some '\xa0'
  | 'L' => some '\u2028'
  | 'P' => some '\u2029'
  | _ => none

/-- How many hexadecimal digits follow a character after a backslash. -/
def escapeWidth? : Char → Option Nat
  | 'x' => some 2
  | 'u' => some 4
  | 'U' => some 8
  | _ => none

/-- The character with a code point. Halves of surrogate pairs are none that a text can hold, and
what comes after the last code point does not exist; of a number that is too large for a code point
it is not said what comes of it. -/
def charOf (n : Nat) : Except NoDatum Char :=
  if n.isValidChar then .ok (Char.ofNat n)
  else if n < 0x110000 || 0x80000000 ≤ n then .error .unsupported
  else .error .impossible

inductive QuotedPart
  | text
  | spaces (read : List Char)
  | breaks (first : Char) (more : List Char)
  /-- Behind a line break that a backslash took away. -/
  | escapedBreaks (more : List Char)
  /-- Behind a backslash. -/
  | escape
  /-- In the digits of an escape, with the number so far. -/
  | digits (left number : Nat)

/-- Reads a quoted scalar on up to its closing quote. -/
def quotedFrom (double : Bool) (read : List Char) :
    QuotedPart → (line column : Nat) → List Char → Except NoDatum Scalar
  | _, _, _, [] => .error .malformed
  | part, line, column, c :: cs =>
    let newLine (next : QuotedPart) : Except NoDatum Scalar :=
      if isMarker cs then .error .malformed else quotedFrom double read next (line + 1) 0 cs
    let inText (read : List Char) : Except NoDatum Scalar :=
      if double then
        if c == '"' then .ok ⟨read.reverse, ⟨cs, line, column + 1⟩, line⟩
        else if c == '\\' then quotedFrom double read .escape line (column + 1) cs
        else if c == ' ' || c == '\t' then quotedFrom double read (.spaces [c]) line (column + 1) cs
        else if isBreak c then
          if isMarker cs then .error .malformed
          else quotedFrom double read (.breaks (breakChar c) []) (line + 1) 0 cs
        else quotedFrom double (c :: read) .text line (column + 1) cs
      else if c == '\'' then
        match cs with
        | '\'' :: cs => quotedFrom double ('\'' :: read) .text line (column + 2) cs
        | cs => .ok ⟨read.reverse, ⟨cs, line, column + 1⟩, line⟩
      else if c == ' ' || c == '\t' then quotedFrom double read (.spaces [c]) line (column + 1) cs
      else if isBreak c then
        if isMarker cs then .error .malformed
        else quotedFrom double read (.breaks (breakChar c) []) (line + 1) 0 cs
      else quotedFrom double (c :: read) .text line (column + 1) cs
    match part with
    | .text => inText read
    | .spaces sp =>
      if c == ' ' || c == '\t' then quotedFrom double read (.spaces (c :: sp)) line (column + 1) cs
      else if isBreak c then newLine (.breaks (breakChar c) [])
      else inText (sp ++ read)
    | .breaks first more =>
      if c == ' ' || c == '\t' then
        quotedFrom double read (.breaks first more) line (column + 1) cs
      else if isBreak c then newLine (.breaks first (breakChar c :: more))
      else inText ((fold first more).reverse ++ read)
    | .escapedBreaks more =>
      if c == ' ' || c == '\t' then quotedFrom double read (.escapedBreaks more) line (column + 1) cs
      else if isBreak c then newLine (.escapedBreaks (breakChar c :: more))
      else inText (more ++ read)
    | .escape =>
      match escapeWidth? c with
      | some width => quotedFrom double read (.digits width 0) line (column + 1) cs
      | none =>
        match unescape? c with
        | some e => quotedFrom double (e :: read) .text line (column + 1) cs
        | none => if isBreak c then newLine (.escapedBreaks []) else .error .malformed
    | .digits left number =>
      match Json.hexValue? c with
      | none => .error .malformed
      | some d =>
        let number := 16 * number + d
        if 1 < left then quotedFrom double read (.digits (left - 1) number) line (column + 1) cs
        else
          match charOf number with
          | .ok e => quotedFrom double (e :: read) .text line (column + 1) cs
          | .error why => .error why

/-- Reads a quoted scalar behind its opening quote. -/
def readQuoted (double : Bool) (k : Cursor) : Except NoDatum Scalar :=
  quotedFrom double [] .text k.line k.column k.rest

/-! ## Blocks of text -/

/-- What happens to the line breaks at the end of a block. -/
inductive Chomping
  | clip
  | strip
  | keep
  deriving DecidableEq

/-- Reads the indicators of a block in either order, at most one of each kind. -/
def readHeader (k : Cursor) : Option (Chomping × Option Nat × Cursor) :=
  let chomp? (k : Cursor) : Option (Chomping × Cursor) :=
    match k.rest with
    | '+' :: _ => some (.keep, k.next)
    | '-' :: _ => some (.strip, k.next)
    | _ => none
  let digit? (k : Cursor) : Option (Nat × Cursor) :=
    match k.rest with
    | c :: _ => if c.isDigit then some (Decimal.digitValue c, k.next) else none
    | [] => none
  let header : Chomping × Option Nat × Cursor :=
    match chomp? k with
    | some (chomping, k) =>
      match digit? k with
      | some (n, k) => (chomping, some n, k)
      | none => (chomping, none, k)
    | none =>
      match digit? k with
      | some (n, k) =>
        match chomp? k with
        | some (chomping, k) => (chomping, some n, k)
        | none => (.clip, some n, k)
      | none => (.clip, none, k)
  let (_, increment, k) := header
  if increment == some 0 || !k.atLineEnd then none
  else
    match k.rest with
    | [] => some header
    | c :: _ => if c == ' ' || isBreak c then some header else none

/-- The place behind the line break at the end of a line, and the break. -/
def lineBreak (k : Cursor) : List Char × Cursor :=
  match k.rest with
  | c :: _ => if isBreak c then ([breakChar c], k.next) else ([], k)
  | [] => ([], k)

def restOfLine (k : Cursor) : List Char × Cursor :=
  let text := k.rest.takeWhile (!isBreak ·)
  (text, ⟨k.rest.drop text.length, k.line, k.column + text.length⟩)

/-- Empty lines at the start of a block, and the deepest column that their spaces reach. The
breaks are given last one first. -/
def leadingLines (breaks : List Char) (deepest line column : Nat) :
    List Char → List Char × Nat × Cursor
  | [] => (breaks, deepest, ⟨[], line, column⟩)
  | c :: cs =>
    if c == ' ' then leadingLines breaks (max deepest (column + 1)) line (column + 1) cs
    else if isBreak c then leadingLines (breakChar c :: breaks) deepest (line + 1) 0 cs
    else (breaks, deepest, ⟨c :: cs, line, column⟩)

/-- Spaces up to the indentation and empty lines. The breaks are given last one first. -/
def blockBreaks (indent : Nat) (breaks : List Char) (line column : Nat) :
    List Char → List Char × Cursor
  | [] => (breaks, ⟨[], line, column⟩)
  | c :: cs =>
    if c == ' ' && column < indent then blockBreaks indent breaks line (column + 1) cs
    else if isBreak c then blockBreaks indent (breakChar c :: breaks) (line + 1) 0 cs
    else (breaks, ⟨c :: cs, line, column⟩)

def atBlank (k : Cursor) : Bool :=
  match k.rest with
  | c :: _ => c == ' ' || c == '\t'
  | [] => false

/-- The lines of a block from a place on: the text so far, the last line break, the empty lines
behind it and the place behind them. -/
def blockLines (folded : Bool) (indent : Nat) :
    Nat → List Char → List Char → Cursor → List Char × List Char × List Char × Cursor
  | 0, read, breaks, k => (read, [], breaks, k)
  | fuel + 1, read, breaks, k =>
    let leading := atBlank k
    let (text, behind) := restOfLine k
    let read := read ++ breaks.reverse ++ text
    let (last, behind) := lineBreak behind
    let (breaks, behind) := blockBreaks indent [] behind.line behind.column behind.rest
    if behind.column == indent && !behind.atEnd then
      let joined :=
        if folded && last == ['\n'] && !leading && !atBlank behind then
          if breaks.isEmpty then [' '] else []
        else last
      blockLines folded indent fuel (read ++ joined) breaks behind
    else (read, last, breaks, behind)

/-- Reads a block of text behind its mark; `parent` is the column of what it belongs to. -/
def readBlock (folded : Bool) (parent : Int) (k : Cursor) : Option (List Char × Cursor) :=
  match readHeader k with
  | none => none
  | some (chomping, increment, k) =>
    let (_, k) := restOfLine k
    let (_, k) := lineBreak k
    let least := (max 1 (parent + 1)).toNat
    let (breaks, indent, k) :=
      match increment with
      | some n =>
        let indent := least + n - 1
        let (breaks, k) := blockBreaks indent [] k.line k.column k.rest
        (breaks, indent, k)
      | none =>
        let (breaks, deepest, k) := leadingLines [] 0 k.line k.column k.rest
        (breaks, max least deepest, k)
    let (text, last, breaks, k) :=
      if k.column == indent && !k.atEnd then
        blockLines folded indent (k.rest.length + 1) [] breaks k
      else ([], [], breaks, k)
    let text :=
      match chomping with
      | .strip => text
      | .clip => text ++ last
      | .keep => text ++ last ++ breaks.reverse
    some (text, k)

/-! ## What plain scalars stand for -/

def nullWords : List String := ["", "~", "null", "Null", "NULL"]

def trueWords : List String :=
  ["yes", "Yes", "YES", "true", "True", "TRUE", "on", "On", "ON"]

def falseWords : List String :=
  ["no", "No", "NO", "false", "False", "FALSE", "off", "Off", "OFF"]

def infinityWords : List String := [".inf", ".Inf", ".INF"]

def nanWords : List String := [".nan", ".NaN", ".NAN"]

/-- Digits of a base, with underscores among them. -/
def isDigits (base : Nat) (s : List Char) : Bool :=
  !s.isEmpty && s.all fun c => c == '_' || (Json.hexValue? c).any (· < base)

/-- The number that digits of a base write. -/
def digitsValue (base : Nat) (s : List Char) : Nat :=
  s.foldl (fun n c => if c == '_' then n else base * n + (Json.hexValue? c).getD 0) 0

/-- One or two digits of a number below sixty. -/
def isSixtieth : List Char → Bool
  | [c] => c.isDigit
  | [c, d] => '0' ≤ c && c ≤ '5' && d.isDigit
  | _ => false

/-- Digits in base ten that start with a digit. -/
def startsDecimal (s : List Char) : Bool :=
  match s with
  | c :: _ => c.isDigit && isDigits 10 s
  | [] => false

/-- The value of parts in base sixty. -/
def sixtyValue (parts : List (List Char)) : Nat :=
  parts.foldl (fun n part => 60 * n + digitsValue 10 part) 0

/-- A whole number without its sign: binary, hexadecimal, octal, decimal or in base sixty. -/
def natural? (s : List Char) : Option Nat :=
  match s with
  | ['0'] => some 0
  | '0' :: 'b' :: cs => if isDigits 2 cs then some (digitsValue 2 cs) else none
  | '0' :: 'x' :: cs => if isDigits 16 cs then some (digitsValue 16 cs) else none
  | '0' :: cs => if isDigits 8 cs then some (digitsValue 8 cs) else none
  | cs =>
    match Text.splitOn ':' cs with
    | first :: more =>
      if startsDecimal first && more.all isSixtieth then some (sixtyValue (first :: more)) else none
    | [] => none

/-- A sign at the start, and the rest. -/
def cutSign : List Char → Bool × List Char
  | '-' :: cs => (true, cs)
  | '+' :: cs => (false, cs)
  | cs => (false, cs)

def int? (s : List Char) : Option Int :=
  let (negative, body) := cutSign s
  (natural? body).map fun n => if negative then -n else n

/-- How many digits a whole number may have. -/
def digitLimit : Nat := 4300

/-- Is it a mark of a base with no digit behind it, or a number with too many digits? Where the
base is a power of two there may be any number of them. -/
def isOutOfReach (s : List Char) : Bool :=
  match (cutSign s).2 with
  | '0' :: 'b' :: cs | '0' :: 'x' :: cs => cs.all (· == '_')
  | '0' :: _ => false
  | cs => (Text.splitOn ':' cs).any fun part => digitLimit < (part.filter Char.isDigit).length

/-- An exponent, which has to have a sign; nothing stands for zero. -/
def exponent? : List Char → Option Int
  | [] => some 0
  | e :: sign :: digits =>
    if (e == 'e' || e == 'E') && (sign == '+' || sign == '-') && !digits.isEmpty
        && digits.all Char.isDigit then
      let n : Int := Decimal.value digits
      some (if sign == '-' then -n else n)
    else none
  | _ => none

/-- Digits with underscores at the start of a text, and the rest. -/
def spanUnderscored (s : List Char) : List Char × List Char :=
  let isPart (c : Char) := c.isDigit || c == '_'
  (s.takeWhile isPart, s.dropWhile isPart)

/-- A decimal number with a point: digits before it, or none and a digit right behind it. -/
def decimal? (negative signed : Bool) (s : List Char) : Option Double :=
  let (whole, cs) := spanUnderscored s
  match cs with
  | '.' :: cs =>
    let (places, cs) := spanUnderscored cs
    let good :=
      if whole.isEmpty then !signed && places.head?.any Char.isDigit
      else startsDecimal whole
    if !good then none
    else
      (exponent? cs).map fun e =>
        let shift : Int := (places.filter Char.isDigit).length
        Double.ofDecimal negative (digitsValue 10 (whole ++ places)) (e - shift)
  | _ => none

/-- The number of parts in base sixty, the last part first; each place is rounded, and so is each
sum. -/
def sixtySum (total : Double) (unit : Nat) : List Double → Double
  | [] => total
  | part :: more => sixtySum (total.add (part.mul (.ofInt unit))) (60 * unit) more

/-- A number with a point in base sixty. -/
def sixtyDecimal? (negative : Bool) (s : List Char) : Option Double :=
  match Text.cutAt? ['.'] s with
  | none => none
  | some (whole, places) =>
    match (Text.splitOn ':' whole).reverse with
    | last :: before :: more =>
      let first := (before :: more).getLastD before
      let inner := last :: (before :: more).dropLast
      if startsDecimal first && inner.all isSixtieth
          && places.all (fun c => c.isDigit || c == '_') then
        let shift := (places.filter Char.isDigit).length
        let seconds := Double.ofDecimal false (digitsValue 10 (last ++ places)) (-shift)
        let higher := (before :: more).map fun part => Double.ofInt (digitsValue 10 part)
        let size := sixtySum .zero 1 (seconds :: higher)
        some (if negative then size.mul (.ofInt (-1)) else size)
      else none
    | _ => none

/-- A number with a point, an infinity or a NaN. -/
def float? (s : List Char) : Option Double :=
  let text := String.ofList s
  if text ∈ nanWords then some .nan
  else
    let (negative, body) := cutSign s
    let signed := body.length != s.length
    if String.ofList body ∈ infinityWords then some (.infinite negative)
    else (decimal? negative signed body).orElse fun _ => sixtyDecimal? negative body

/-- The type of what a timestamp is read as. -/
def Timestamp.typeName (t : Timestamp) : String :=
  if t.time?.isSome then "datetime" else "date"

/-- The value of a plain scalar. -/
def resolve (s : List Char) : Except NoDatum Datum :=
  let text := String.ofList s
  if text ∈ nullWords then .ok .null
  else if text ∈ trueWords then .ok (.bool true)
  else if text ∈ falseWords then .ok (.bool false)
  else
    match int? s with
    | some n => if isOutOfReach s then .error .impossible else .ok (.int n)
    | none =>
      match float? s with
      | some x => .ok (.float x)
      | none =>
        match Timestamp.read? s with
        | some t => if t.isPossible then .ok (.unsupported t.typeName) else .error .impossible
        | none => .ok (.str text)

end Scaffold.Yaml
