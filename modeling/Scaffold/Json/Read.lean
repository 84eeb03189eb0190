import Scaffold.Datum
import Scaffold.Number.Decimal

namespace Scaffold.Json

/-!
# Reading JSON text

A strict reader: no comments, no trailing commas, no control characters
inside strings. Beside the numbers of the standard it takes `NaN` and the
two infinities. An escape may write half of a surrogate pair alone; no datum
has such a string, so that it is refused, but the text is JSON all the same.
-/

def isBlank (c : Char) : Bool :=
  c == ' ' || c == '\t' || c == '\n' || c == '\r'

def skipBlanks (s : List Char) : List Char :=
  s.dropWhile isBlank

def hexValue? (c : Char) : Option Nat :=
  if c.isDigit then some (c.toNat - '0'.toNat)
  else if 'a' ≤ c && c ≤ 'f' then some (c.toNat - 'a'.toNat + 10)
  else if 'A' ≤ c && c ≤ 'F' then some (c.toNat - 'A'.toNat + 10)
  else none

def hexNumber? (digits : List Char) : Option Nat :=
  digits.foldlM (fun n c => (hexValue? c).map (16 * n + ·)) 0

/-- What a character after a backslash stands for. -/
def unescape? : Char → Option Char
  | '"' => some '"'
  | '\\' => some '\\'
  | '/' => some '/'
  | 'b' => some '\x08'
  | 'f' => some '\x0c'
  | 'n' => some '\n'
  | 'r' => some '\r'
  | 't' => some '\t'
  | _ => none

/-- The code units of a string behind its opening quote, and what follows its closing one. -/
def unitsFrom (read : List Nat) : List Char → Option (List Nat × List Char)
  | '"' :: rest => some (read.reverse, rest)
  | '\\' :: 'u' :: a :: b :: c :: d :: rest =>
    match hexNumber? [a, b, c, d] with
    | some n => unitsFrom (n :: read) rest
    | none => none
  | '\\' :: c :: rest =>
    match unescape? c with
    | some e => unitsFrom (e.toNat :: read) rest
    | none => none
  | c :: rest => if c.toNat < 32 then none else unitsFrom (c.toNat :: read) rest
  | [] => none

def isHighHalf (n : Nat) : Bool := 0xd800 ≤ n && n < 0xdc00

def isLowHalf (n : Nat) : Bool := 0xdc00 ≤ n && n < 0xe000

/-- The characters of code units; `lone?` is what a half without its other half becomes, if it
becomes anything. -/
def joinHalves (lone? : Option Char) : List Nat → Option (List Char)
  | [] => some []
  | [n] => if isHighHalf n || isLowHalf n then lone?.map ([·]) else some [Char.ofNat n]
  | n :: m :: rest =>
    if isHighHalf n && isLowHalf m then
      let c := Char.ofNat (0x10000 + (n - 0xd800) * 0x400 + (m - 0xdc00))
      (joinHalves lone? rest).map (c :: ·)
    else if isHighHalf n || isLowHalf n then
      lone?.bind fun c => (joinHalves lone? (m :: rest)).map (c :: ·)
    else (joinHalves lone? (m :: rest)).map (Char.ofNat n :: ·)

def readString (lone? : Option Char) (s : List Char) : Option (String × List Char) :=
  (unitsFrom [] s).bind fun (units, rest) =>
    (joinHalves lone? units).map fun cs => (String.ofList cs, rest)

/-- The digits of a whole number: a zero alone or digits that start with another one. -/
def spanWhole? (s : List Char) : Option (List Char × List Char) :=
  match Decimal.spanDigits s with
  | ([], _) => none
  | ('0' :: d :: ds, rest) => some (['0'], d :: ds ++ rest)
  | (ds, rest) => some (ds, rest)

/-- Digits behind a point, if there are any. -/
def spanPlaces : List Char → List Char × List Char
  | '.' :: cs =>
    match Decimal.spanDigits cs with
    | ([], _) => ([], '.' :: cs)
    | (ds, rest) => (ds, rest)
  | cs => ([], cs)

/-- A number; without places and exponent it is whole. -/
def readNumber (negative : Bool) (s : List Char) : Option (Datum × List Char) :=
  match spanWhole? s with
  | none => none
  | some (whole, cs) =>
    let (places, cs) := spanPlaces cs
    match Decimal.spanExponent? cs with
    | some (e, rest) =>
      some (.float (Decimal.toDouble ⟨negative, Decimal.value (whole ++ places), e - places.length⟩),
        rest)
    | none =>
      if places.isEmpty then
        let n : Int := Decimal.value whole
        some (.int (if negative then -n else n), cs)
      else
        some (.float (Decimal.toDouble ⟨negative, Decimal.value (whole ++ places), -places.length⟩),
          cs)

def words : List (List Char × Datum) :=
  [ ("null".toList, .null), ("true".toList, .bool true), ("false".toList, .bool false)
  , ("NaN".toList, .float .nan), ("Infinity".toList, .float (.infinite false))
  , ("-Infinity".toList, .float (.infinite true)) ]

def readScalar (s : List Char) : Option (Datum × List Char) :=
  match words.find? fun (word, _) => word.isPrefixOf s with
  | some (word, d) => some (d, s.drop word.length)
  | none =>
    match s with
    | '-' :: cs => readNumber true cs
    | cs => readNumber false cs

mutual

/-- A value at the start of a text, and the rest. -/
def readValue (lone? : Option Char) : Nat → List Char → Option (Datum × List Char)
  | 0, _ => none
  | fuel + 1, s =>
    match skipBlanks s with
    | '"' :: cs => (readString lone? cs).map fun (t, rest) => (.str t, rest)
    | '[' :: cs =>
      match skipBlanks cs with
      | ']' :: rest => some (.list [], rest)
      | cs => (readItems lone? fuel [] cs).map fun (items, rest) => (.list items, rest)
    | '\x7b' :: cs =>
      match skipBlanks cs with
      | '\x7d' :: rest => some (.map [], rest)
      | cs =>
        (readEntries lone? fuel [] cs).map fun (entries, rest) => (Datum.ofEntries entries, rest)
    | cs => readScalar cs

def readItems (lone? : Option Char) : Nat → List Datum → List Char → Option (List Datum × List Char)
  | 0, _, _ => none
  | fuel + 1, done, s =>
    match readValue lone? fuel s with
    | none => none
    | some (item, rest) =>
      match skipBlanks rest with
      | ',' :: rest => readItems lone? fuel (item :: done) rest
      | ']' :: rest => some ((item :: done).reverse, rest)
      | _ => none

def readEntries (lone? : Option Char) : Nat → List (Datum × Datum) → List Char →
    Option (List (Datum × Datum) × List Char)
  | 0, _, _ => none
  | fuel + 1, done, s =>
    match skipBlanks s with
    | '"' :: cs =>
      match readString lone? cs with
      | none => none
      | some (key, rest) =>
        match skipBlanks rest with
        | ':' :: rest =>
          match readValue lone? fuel rest with
          | none => none
          | some (item, rest) =>
            match skipBlanks rest with
            | ',' :: rest => readEntries lone? fuel ((.str key, item) :: done) rest
            | '\x7d' :: rest => some (((.str key, item) :: done).reverse, rest)
            | _ => none
        | _ => none
    | _ => none

end

/-- The datum of a JSON text; every step of the readers takes a character or enters a value, so
twice the length bounds them. -/
def readText (lone? : Option Char) (text : String) : Option Datum :=
  let s := text.toList
  match readValue lone? (2 * s.length + 2) s with
  | some (d, rest) => if (skipBlanks rest).isEmpty then some d else none
  | none => none

/-- The datum of a text that no half stands alone in. -/
def parse? (text : String) : Option Datum :=
  readText none text

/-- The datum of a text, or what is wrong with it. A text that can be read once lone halves are
replaced is not malformed. -/
def parse (text : String) : Except NoDatum Datum :=
  match parse? text with
  | some d => .ok d
  | none =>
    .error (if (readText (some '\ufffd') text).isSome then .unsupported else .malformed)

end Scaffold.Json
