import Scaffold.Number.Decimal
import Scaffold.Text.Blank
import Scaffold.Text.Letter

namespace Scaffold.Number

/-!
# Spelled numbers

Numbers as people type them: blanks around, digits of any script, single
underscores between digits, and words for what is no number.
-/

/-- The sign and the name of an infinity or of what is no number, in any case of letters. -/
def ofWord? (s : List Char) : Option Double :=
  let (negative, word) := Decimal.spanSign s
  let word := String.ofList (word.map Char.toLower)
  if word = "inf" || word = "infinity" then some (.infinite negative)
  else if word = "nan" then some .nan
  else none

/-- A double: a decimal number or a word. -/
def readDouble? (s : List Char) : Option Double :=
  match Decimal.read? s with
  | some d => some d.toDouble
  | none => ofWord? s

/-- The text with the ASCII digit in the place of each decimal digit. -/
def withPlainDigits (s : List Char) : List Char :=
  s.map fun c =>
    match Text.decimalValue? c with
    | some n => Char.ofNat ('0'.toNat + n)
    | none => c

/-- The text without its underscores, each of which has to stand between two digits; `afterDigit`
tells whether a digit stands before the text. -/
def dropUnderscores? (afterDigit : Bool) : List Char → Option (List Char)
  | [] => some []
  | '_' :: c :: cs =>
    if afterDigit && c.isDigit then (dropUnderscores? true cs).map (c :: ·) else none
  | ['_'] => none
  | c :: cs => (dropUnderscores? c.isDigit cs).map (c :: ·)

/-- The plain spelling of a typed number. -/
def plainSpelling? (s : String) : Option (List Char) :=
  dropUnderscores? false (withPlainDigits (Text.trim s.toList))

/-- A typed whole number. -/
def typedInt? (s : String) : Option Int :=
  (plainSpelling? s).bind Decimal.readInt?

/-- A typed double. -/
def typedDouble? (s : String) : Option Double :=
  (plainSpelling? s).bind readDouble?

end Scaffold.Number
