import Scaffold.Number.Double

namespace Scaffold

/-!
# Decimal notation

Reading whole numbers and decimal numbers with an optional exponent. A
reader takes the longest number at the start of a text and returns the
rest.
-/

/-- The number `digits · 10 ^ exponent`, with its sign. -/
structure Decimal where
  negative : Bool
  digits : Nat
  exponent : Int
  deriving DecidableEq, Repr

namespace Decimal

def toDouble (d : Decimal) : Double :=
  Double.ofDecimal d.negative d.digits d.exponent

def digitValue (c : Char) : Nat :=
  c.toNat - '0'.toNat

/-- The number that a list of ASCII digits writes, `n` being the number of the digits before. -/
def valueFrom (n : Nat) (cs : List Char) : Nat :=
  cs.foldl (fun n c => 10 * n + digitValue c) n

def value (cs : List Char) : Nat :=
  valueFrom 0 cs

/-- The ASCII digits at the start of a text, and the rest. -/
def spanDigits (s : List Char) : List Char × List Char :=
  (s.takeWhile Char.isDigit, s.dropWhile Char.isDigit)

/-- A sign at the start of a text. -/
def spanSign : List Char → Bool × List Char
  | '-' :: cs => (true, cs)
  | '+' :: cs => (false, cs)
  | cs => (false, cs)

/-- The exponent part at the start of a text: a marker, a sign and digits. -/
def spanExponent? : List Char → Option (Int × List Char)
  | c :: cs =>
    if c == 'e' || c == 'E' then
      let (negative, cs) := spanSign cs
      match spanDigits cs with
      | ([], _) => none
      | (ds, rest) =>
        let n : Int := value ds
        some (if negative then -n else n, rest)
    else none
  | [] => none

/-- A whole number: an optional sign and ASCII digits, with nothing after. -/
def readInt? (s : List Char) : Option Int :=
  let (negative, cs) := spanSign s
  match spanDigits cs with
  | ([], _) => none
  | (ds, []) => some (if negative then -(value ds : Int) else value ds)
  | _ => none

/-- A decimal number with at least one digit, before or after the point, and nothing after the
optional exponent. -/
def read? (s : List Char) : Option Decimal :=
  let (negative, cs) := spanSign s
  let (whole, cs) := spanDigits cs
  let (places, cs) :=
    match cs with
    | '.' :: cs => spanDigits cs
    | _ => ([], cs)
  if whole.isEmpty && places.isEmpty then none
  else
    match (if cs.isEmpty then some (0, []) else spanExponent? cs) with
    | some (e, []) => some ⟨negative, value (whole ++ places), e - places.length⟩
    | _ => none

end Decimal

end Scaffold
