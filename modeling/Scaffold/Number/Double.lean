namespace Scaffold

/-!
# Double precision numbers

A double is kept as what it stands for: a sign, a whole mantissa and a
power of two, or one of the values that are no numbers. Every operation
is exact rational arithmetic followed by one rounding, to the nearest
double, a tie to the even mantissa.
-/

/-- A binary64 number. A finite value is `mantissa · 2 ^ exponent`, with the sign in front. -/
inductive Double
  | nan
  | infinite (negative : Bool)
  | finite (negative : Bool) (mantissa : Nat) (exponent : Int)
  deriving DecidableEq, Repr

namespace Double

def minExponent : Int := -1074

def maxExponent : Int := 971

/-- Mantissas are below this bound. -/
def mantissaBound : Nat := Nat.pow 2 53

def zero : Double := .finite false 0 minExponent

/-- The quotient rounded to the nearest whole number, a tie to the even one. -/
def roundDiv (num den : Nat) : Nat :=
  let q := num / den
  let twice := 2 * (num % den)
  if twice < den then q
  else if den < twice then q + 1
  else if q % 2 == 0 then q else q + 1

/-- A fraction scaled by a power of two, as numerator and denominator. -/
def scale (num den : Nat) (exponent : Int) : Nat × Nat :=
  if 0 ≤ exponent then (num * Nat.pow 2 exponent.toNat, den)
  else (num, den * Nat.pow 2 (-exponent).toNat)

/-- The exponent at which a positive fraction has a mantissa of full width, but no less than
the least one. -/
def fittingExponent (num den : Nat) : Int :=
  let guess : Int := (num.log2 : Int) - (den.log2 : Int) - 53
  let (n, d) := scale num den (-guess)
  let fitting := if n / d < mantissaBound then guess else guess + 1
  max fitting minExponent

/-- The double nearest to a fraction with the given sign; too large ones are infinite. -/
def ofFraction (negative : Bool) (num den : Nat) : Double :=
  if num == 0 then .finite negative 0 minExponent
  else
    let e := fittingExponent num den
    let (n, d) := scale num den (-e)
    let m := roundDiv n d
    let (m, e) := if m == mantissaBound then (m / 2, e + 1) else (m, e)
    if maxExponent < e then .infinite negative else .finite negative m e

def ofInt (n : Int) : Double :=
  ofFraction (n < 0) n.natAbs 1

/-- The double nearest to `digits · 10 ^ exponent`. Powers of ten far outside the range are
settled without being computed. -/
def ofDecimal (negative : Bool) (digits : Nat) (exponent : Int) : Double :=
  if digits == 0 then .finite negative 0 minExponent
  else if 400 < exponent then .infinite negative
  else if exponent < -(401 + digits.log2) then .finite negative 0 minExponent
  else if 0 ≤ exponent then ofFraction negative (digits * Nat.pow 10 exponent.toNat) 1
  else ofFraction negative digits (Nat.pow 10 (-exponent).toNat)

/-- The size of a finite double as a fraction; zero for the others. -/
def fraction : Double → Nat × Nat
  | .finite _ m e => scale m 1 e
  | _ => (0, 1)

def isNegative : Double → Bool
  | .nan => false
  | .infinite negative => negative
  | .finite negative _ _ => negative

/-- Positive and negative zero. -/
def isZero : Double → Bool
  | .finite _ m _ => m == 0
  | _ => false

def isNaN : Double → Bool
  | .nan => true
  | _ => false

/-- The whole part, cut toward zero, of a finite double. -/
def truncate? : Double → Option Int
  | .finite negative m e =>
    let (n, d) := scale m 1 e
    let q : Int := (n / d : Nat)
    some (if negative then -q else q)
  | _ => none

/-- The whole number that a double is, if it is one. -/
def toInt? : Double → Option Int
  | .finite negative m e =>
    let (n, d) := scale m 1 e
    if n % d == 0 then
      let q : Int := (n / d : Nat)
      some (if negative then -q else q)
    else none
  | _ => none

/-- The whole number nearest to a finite double, a tie to the even one. -/
def round? : Double → Option Int
  | .finite negative m e =>
    let (n, d) := scale m 1 e
    let q : Int := (roundDiv n d : Nat)
    some (if negative then -q else q)
  | _ => none

/-- The order of numbers; nothing compares with a NaN, and the zeros are equal. -/
def lt : Double → Double → Bool
  | .nan, _ => false
  | _, .nan => false
  | .infinite a, .infinite b => a && !b
  | .infinite a, .finite .. => a
  | .finite .., .infinite b => !b
  | .finite na ma ea, .finite nb mb eb =>
    let (n, d) := scale ma 1 ea
    let (p, q) := scale mb 1 eb
    let signed (negative : Bool) (k : Nat) : Int := if negative then -(k : Int) else k
    signed na (n * q) < signed nb (p * d)

/-- Less than or equal, false where a NaN takes part. -/
def le (x y : Double) : Bool :=
  !x.isNaN && !y.isNaN && !y.lt x

/-- The sum, rounded. Only two negative zeros make a negative zero. -/
def add : Double → Double → Double
  | .nan, _ => .nan
  | _, .nan => .nan
  | .infinite a, .infinite b => if a == b then .infinite a else .nan
  | .infinite a, .finite .. => .infinite a
  | .finite .., .infinite b => .infinite b
  | .finite na ma ea, .finite nb mb eb =>
    let (n, d) := scale ma 1 ea
    let (p, q) := scale mb 1 eb
    let signed (negative : Bool) (k : Nat) : Int := if negative then -(k : Int) else k
    let total := signed na (n * q) + signed nb (p * d)
    ofFraction (total < 0 || (total == 0 && na && nb)) total.natAbs (d * q)

/-- The product, rounded. -/
def mul : Double → Double → Double
  | .nan, _ => .nan
  | _, .nan => .nan
  | .finite na ma ea, .finite nb mb eb =>
    let (n, d) := scale (ma * mb) 1 (ea + eb)
    ofFraction (na != nb) n d
  | x, y => if x.isZero || y.isZero then .nan else .infinite (x.isNegative != y.isNegative)

/-- The remainder of a positive double after division by a positive one; exact. -/
def remainder? (x y : Double) : Option Double :=
  match x, y with
  | .finite false ma ea, .finite false mb eb =>
    if mb == 0 then none
    else
      let (n, d) := scale ma 1 ea
      let (p, q) := scale mb 1 eb
      some (ofFraction false (n * q % (p * d)) (d * q))
  | _, _ => none

/-- How many whole times a positive double goes into another, found from the rounded difference
to the remainder and the rounded quotient of that. -/
def wholeQuotient? (x y : Double) : Option Nat := do
  let r ← remainder? x y
  let (n, d) := x.fraction
  let (p, q) := r.fraction
  let (n, d) := (ofFraction false (n * q - p * d) (d * q)).fraction
  let (p, q) := y.fraction
  let (n, d) := (ofFraction false (n * q) (d * p)).fraction
  pure (if d < 2 * (n % d) then n / d + 1 else n / d)

@[simp] theorem isZero_zero : zero.isZero = true := rfl

end Double

end Scaffold
