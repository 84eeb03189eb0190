import Scaffold.Number.Decimal

namespace Scaffold

/-!
# Shortest decimal text of a double

A finite double is written with the fewest digits that read back as the
same double; among those the nearest to its value. Where the point goes
and when an exponent is used is left to a layout.
-/

namespace Double

/-- The power of ten just above a positive fraction: `10 ^ (k - 1) ≤ n / d < 10 ^ k`. -/
def pointAfter (n d : Nat) : Int :=
  let below (k : Int) : Bool :=
    if 0 ≤ k then n < d * Nat.pow 10 k.toNat else n * Nat.pow 10 (-k).toNat < d
  let guess : Int := ((n.log2 : Int) - (d.log2 : Int) - 1) * 30103 / 100000
  if below guess then guess
  else if below (guess + 1) then guess + 1
  else guess + 2

/-- The two numbers next to a fraction on the grid of multiples of `10 ^ exponent`, the nearer
one first; of two equally near ones the even one is first. -/
def gridNeighbours (n d : Nat) (exponent : Int) : List Nat :=
  let (n, d) :=
    if 0 ≤ exponent then (n, d * Nat.pow 10 exponent.toNat)
    else (n * Nat.pow 10 (-exponent).toNat, d)
  let q := n / d
  if roundDiv n d == q then [q, q + 1] else [q + 1, q]

/-- The decimal with the fewest digits, from `count` on and `fuel` more at most, that reads back
as the double `x` of value `n / d`. The last resort is the value itself. -/
def shortestFrom (x : Double) (n d : Nat) (point : Int) : Nat → Int → Nat × Int
  | 0, _ =>
    let places := d.log2
    (n * Nat.pow 10 places / d, -places)
  | fuel + 1, count =>
    match (gridNeighbours n d (point - count)).find?
        (ofDecimal x.isNegative · (point - count) == x) with
    | some digits => (digits, point - count)
    | none => shortestFrom x n d point fuel (count + 1)

/-- The shortest decimal of a finite double, as digits and an exponent of ten. -/
def shortest (x : Double) : Nat × Int :=
  let (n, d) := x.fraction
  shortestFrom x n d (pointAfter n d) 17 1

end Double

/-- How decimal numbers are laid out. -/
structure FloatLayout where
  /-- Numbers below `10 ^ leastPoint / 10` are written with an exponent. -/
  leastPoint : Int
  /-- Numbers from `10 ^ greatestPoint` on are written with an exponent. -/
  greatestPoint : Int
  /-- Exponents that are not negative carry a plus sign. -/
  plusExponent : Bool
  /-- The least number of digits of an exponent. -/
  exponentWidth : Nat
  nan : String
  infinity : String
  negativeInfinity : String

namespace FloatLayout

/-- Digits with a point after the first `point` of them, filled up with zeros on either side. -/
def positional (ds : List Char) (point : Int) : List Char :=
  if point ≤ 0 then '0' :: '.' :: List.replicate (-point).toNat '0' ++ ds
  else
    let p := point.toNat
    if ds.length ≤ p then ds ++ List.replicate (p - ds.length) '0' ++ ['.', '0']
    else ds.take p ++ '.' :: ds.drop p

/-- One digit before the point and an exponent of ten. -/
def scientific (layout : FloatLayout) (ds : List Char) (point : Int) : List Char :=
  let e := point - 1
  let sign := if e < 0 then ['-'] else if layout.plusExponent then ['+'] else []
  let digits := (toString e.natAbs).toList
  let digits := List.replicate (layout.exponentWidth - digits.length) '0' ++ digits
  let mantissa :=
    match ds with
    | d :: [] => [d]
    | d :: rest => d :: '.' :: rest
    | [] => []
  mantissa ++ 'e' :: sign ++ digits

def write (layout : FloatLayout) (x : Double) : String :=
  match x with
  | .nan => layout.nan
  | .infinite false => layout.infinity
  | .infinite true => layout.negativeInfinity
  | .finite negative m _ =>
    let body :=
      if m == 0 then ['0', '.', '0']
      else
        let (digits, exponent) := x.shortest
        let ds := (toString digits).toList
        let point := ds.length + exponent
        let ds := (ds.reverse.dropWhile (· == '0')).reverse
        if layout.leastPoint < point && point ≤ layout.greatestPoint then positional ds point
        else layout.scientific ds point
    String.ofList (if negative then '-' :: body else body)

/-- Floats as they stand in messages and template output. -/
def plain : FloatLayout where
  leastPoint := -4
  greatestPoint := 16
  plusExponent := true
  exponentWidth := 2
  nan := "nan"
  infinity := "inf"
  negativeInfinity := "-inf"

/-- Floats in JSON text made from data. -/
def json : FloatLayout :=
  { plain with nan := "NaN", infinity := "Infinity", negativeInfinity := "-Infinity" }

/-- Floats in saved records: no plus sign, and no text for what is no number. -/
def record : FloatLayout where
  leastPoint := -5
  greatestPoint := 16
  plusExponent := false
  exponentWidth := 1
  nan := "null"
  infinity := "null"
  negativeInfinity := "null"

end FloatLayout

namespace Double

/-- The text of a double with one digit after the point, exact ties to the even digit. -/
def toTenths (x : Double) : String :=
  match x with
  | .finite negative .. =>
    let (n, d) := x.fraction
    let tenths := roundDiv (n * 10) d
    let sign := if negative then "-" else ""
    s!"{sign}{tenths / 10}.{tenths % 10}"
  | x => FloatLayout.plain.write x

end Double

end Scaffold
