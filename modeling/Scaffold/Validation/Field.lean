import Scaffold.Files.PathName
import Scaffold.Number.Spelled
import Scaffold.Validation

namespace Scaffold

/-!
# Fields of records

The fields of a record are read leniently: a number may be given as text,
a condition as a word or a number. A field that is not given has its
default, and what no field is named after is left alone.
-/

/-- What is read from a part of a record, or the rule that the part breaks. -/
abbrev Reading (α : Type) := Except Rule α

namespace Reading

/-- Blanks around numbers: spaces and line ends. -/
def isSpace (c : Char) : Bool :=
  Text.isBlank c && !(28 ≤ c.val && c.val ≤ 31)

/-- The text without the spaces at its ends. -/
def trimSpace (s : List Char) : List Char :=
  ((s.dropWhile isSpace).reverse.dropWhile isSpace).reverse

def trueWords : List String := ["1", "on", "t", "true", "y", "yes"]

def falseWords : List String := ["0", "off", "f", "false", "n", "no"]

/-- A word for a condition, in any case of letters. -/
def condition? (s : String) : Option Bool :=
  let word := String.ofList (s.toList.map Char.toLower)
  if word ∈ trueWords then some true
  else if word ∈ falseWords then some false
  else none

/-- A number for a condition. -/
def conditionOfInt? (n : Int) : Option Bool :=
  if n = 0 then some false else if n = 1 then some true else none

/-- A condition: itself, a word or a number for one. -/
def condition : Datum → Reading Bool
  | .bool b => .ok b
  | .str s => (condition? s).elim (.error .boolParsing) .ok
  | .int n => (conditionOfInt? n).elim (.error .boolParsing) .ok
  | .float x =>
    match x.toInt? with
    | some n => (conditionOfInt? n).elim (.error .boolParsing) .ok
    | none => .error .boolType
  | _ => .error .boolType

/-- Digits without the zeros and underscores in front, `last` being the one before. -/
def dropZeros (last : Char) : List Char → List Char
  | [] => [last]
  | c :: cs =>
    if c = '0' || c = '_' then dropZeros c cs
    else if c.isDigit then c :: cs
    else last :: c :: cs

/-- The text without its underscores, if it has some, all of them single and inside. -/
def dropSingleUnderscores? (s : List Char) : Option (List Char) :=
  let pieces := Text.splitOn '_' s
  if 1 < pieces.length && pieces.all (!·.isEmpty) then some pieces.flatten else none

/-- The text without a point that only zeros follow. -/
def dropZeroPlaces (s : List Char) : List Char :=
  match Text.cutAt? ['.'] s with
  | some (before, after) => if after.all (· = '0') then before else s
  | none => s

/-- The digits of a whole number without a plus sign, zeros in front and zero places. -/
def cleanDigits? (s : List Char) : Option (List Char) :=
  let digits :=
    match trimSpace s with
    | '+' :: cs => if cs.head? = some '-' then [] else cs
    | cs => cs
  let digits? :=
    match digits with
    | '0' :: cs => some (dropZeros '0' cs)
    | c :: cs => if c.isDigit || c = '-' then some (c :: cs) else none
    | [] => none
  digits?.map fun digits =>
    let digits := dropZeroPlaces digits
    (dropSingleUnderscores? digits).getD digits

/-- Does a minus sign stand in front of a zero with more behind it? -/
def hasPaddedMinus : List Char → Bool
  | '-' :: '0' :: _ :: _ => true
  | _ => false

/-- The whole number that a text writes. Behind a minus sign there are no zeros in front. -/
def wholeOfText? (s : String) : Option Int :=
  (cleanDigits? s.toList).bind fun digits =>
    if hasPaddedMinus digits then none else Decimal.readInt? digits

/-- The whole number that a double is. -/
def wholeOfDouble : Double → Reading Int
  | .nan | .infinite _ => .error .finiteNumber
  | x => (x.toInt?).elim (.error .intFromFloat) .ok

/-- A whole number: itself, a condition, a float without places or a text. -/
def whole : Datum → Reading Int
  | .int n | .enum (.int n) => .ok n
  | .bool b => .ok (if b then 1 else 0)
  | .str s => (wholeOfText? s).elim (.error .intParsing) .ok
  | .float x => wholeOfDouble x
  | _ => .error .intType

/-- The double that a text writes. Underscores are taken out where there are no spaces around. -/
def doubleOfText? (s : String) : Option Double :=
  match Number.readDouble? (trimSpace s.toList) with
  | some x => some x
  | none => (dropSingleUnderscores? s.toList).bind Number.readDouble?

/-- A double: itself, a whole number, a condition or a text. -/
def double : Datum → Reading Double
  | .float x | .enum (.float x) => .ok x
  | .int n | .enum (.int n) => .ok (.ofInt n)
  | .bool b => .ok (.ofInt (if b then 1 else 0))
  | .str s => (doubleOfText? s).elim (.error .floatParsing) .ok
  | _ => .error .floatType

def path : Datum → Reading PathName
  | .str s => .ok (.ofString s)
  | _ => .error .pathType

/-- One of some choices, given by its name. -/
def choice (ofName? : String → Option α) : Datum → Reading α
  | .str s | .enum (.str s) => (ofName? s).elim (.error .choice) .ok
  | _ => .error .choice

def optional (read : Datum → Reading α) : Datum → Reading (Option α)
  | .null => .ok none
  | d => (read d).map some

end Reading

/-- A part of a record, or all that is wrong with it. -/
abbrev Checked (α : Type) := Except (List Complaint) α

namespace Checked

/-- Two parts; the complaints about both are kept. -/
def both : Checked α → Checked β → Checked (α × β)
  | .ok a, .ok b => .ok (a, b)
  | .ok _, .error ds => .error ds
  | .error cs, .ok _ => .error cs
  | .error cs, .error ds => .error (cs ++ ds)

/-- The complaints about a record that is a field of another one. -/
def within (name : String) (c : Checked α) : Checked α :=
  c.mapError fun cs => cs.map fun complaint => ⟨name :: complaint.place, complaint.rule⟩

/-- The field of a name, or its default. -/
def field (name : String) (read : Datum → Reading α) (default : α) (d : Datum) : Checked α :=
  match d.get? name with
  | none => .ok default
  | some item => (read item).mapError fun rule => [⟨[name], rule⟩]

def record (name : String) (read : Datum → Checked α) (default : α) (d : Datum) : Checked α :=
  match d.get? name with
  | none => .ok default
  | some (.map entries) => (read (.map entries)).within name
  | some _ => .error [⟨[name], .recordType⟩]

/-- The whole record, its complaints under a title. -/
def titled (title : String) (c : Checked α) : Except ValidationError α :=
  c.mapError (⟨title, ·⟩)

end Checked

end Scaffold
