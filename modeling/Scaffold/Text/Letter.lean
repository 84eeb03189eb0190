import Scaffold.Text.Tables

namespace Scaffold.Text

/-!
# Character classes

Each class is a rule on ASCII and a table above it, so that statements on
ASCII text never open a table.
-/

/-- A class of characters: `ascii` decides below code point 128 and the table above. -/
def classify (ascii : Char → Bool) (table : CodePoints) (c : Char) : Bool :=
  if c.val < 128 then ascii c else table.contains c.toNat

/-- Letters, digits and other characters with a numeric value. -/
def isAlphanumeric : Char → Bool :=
  classify Char.isAlphanum Tables.alphanumeric

/-- Characters that stand for one digit, such as `7`, `٧` and `⁷`. -/
def isDigit : Char → Bool :=
  classify Char.isDigit Tables.digit

def isUpper : Char → Bool :=
  classify Char.isUpper Tables.uppercase

def isLower : Char → Bool :=
  classify Char.isLower Tables.lowercase

/-- Titlecase digraphs such as `ǅ`, which are neither upper nor lower case. -/
def isTitle (c : Char) : Bool :=
  if c.val < 128 then false else Tables.titlecase.contains c.toNat

/-- Characters that quoted text shows as they are. -/
def isPrintable : Char → Bool :=
  classify (fun c => 32 ≤ c.val && c.val < 127) Tables.printable

/-- Case-ignorable characters are looked through when the case of a neighbour matters. -/
def isCaseIgnorable : Char → Bool :=
  classify (fun c => c ∈ ['\'', '.', ':', '^', '`']) Tables.caseIgnorable

/-- Cased characters, the case-ignorable ones left out. -/
def isCasedLetter : Char → Bool :=
  classify Char.isAlpha Tables.casedLetter

/-- The value of a decimal digit of any script; other characters have none. -/
def decimalValue? (c : Char) : Option Nat :=
  if c.val < 128 then
    if c.isDigit then some (c.toNat - '0'.toNat) else none
  else
    (Tables.decimalZero.find? fun start => start ≤ c.toNat && c.toNat < start + 10).map
      fun start => c.toNat - start

/-- Decimal digits of any script. -/
def isDecimal (c : Char) : Bool :=
  (decimalValue? c).isSome

end Scaffold.Text
