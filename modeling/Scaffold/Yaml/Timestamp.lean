import Scaffold.Number.Decimal

namespace Scaffold.Yaml

/-!
# Dates and times in YAML

A plain scalar may write a date, alone or with a time of day and the zone
that it is told in. Not every date that can be written exists.
-/

/-- A date, and the time of day if there is one. -/
structure Timestamp where
  year : Nat
  month : Nat
  day : Nat
  /-- Hour, minute and second. -/
  time? : Option (Nat × Nat × Nat) := none
  /-- How many minutes the zone is away from the first one. -/
  offset : Nat := 0

namespace Timestamp

def isLeapYear (year : Nat) : Bool :=
  year % 4 == 0 && (year % 100 != 0 || year % 400 == 0)

def daysIn (year month : Nat) : Nat :=
  if month == 2 then if isLeapYear year then 29 else 28
  else if month ∈ [4, 6, 9, 11] then 30
  else 31

/-- Is there such a day, such a time and such a zone? -/
def isPossible (t : Timestamp) : Bool :=
  0 < t.year && 0 < t.month && t.month ≤ 12 && 0 < t.day && t.day ≤ daysIn t.year t.month
    && (t.time?.all fun (hour, minute, second) => hour < 24 && minute < 60 && second < 60)
    && t.offset < 24 * 60

/-- The number that the digits at the start of a text write, if there are as many as they may be. -/
def readDigits? (least most : Nat) (s : List Char) : Option (Nat × List Char) :=
  let (digits, rest) := Decimal.spanDigits s
  if least ≤ digits.length && digits.length ≤ most then some (Decimal.value digits, rest) else none

def skip? (c : Char) : List Char → Option (List Char)
  | d :: cs => if d == c then some cs else none
  | [] => none

/-- A year, a month and a day with hyphens between; months and days may have one digit if `short`
holds. -/
def readDate? (short : Bool) (s : List Char) : Option (Timestamp × List Char) := do
  let least := if short then 1 else 2
  let (year, s) ← readDigits? 4 4 s
  let s ← skip? '-' s
  let (month, s) ← readDigits? least 2 s
  let s ← skip? '-' s
  let (day, s) ← readDigits? least 2 s
  some (⟨year, month, day, none, 0⟩, s)

def isGap (c : Char) : Bool :=
  c == ' ' || c == '\t'

/-- What follows the mark between a date and a time. -/
def skipGap? : List Char → Option (List Char)
  | 'T' :: cs | 't' :: cs => some cs
  | c :: cs => if isGap c then some (cs.dropWhile isGap) else none
  | [] => none

/-- A time of day; parts of seconds are left out. -/
def readTime? (s : List Char) : Option ((Nat × Nat × Nat) × List Char) := do
  let (hour, s) ← readDigits? 1 2 s
  let s ← skip? ':' s
  let (minute, s) ← readDigits? 2 2 s
  let s ← skip? ':' s
  let (second, s) ← readDigits? 2 2 s
  let rest := match s with
    | '.' :: cs => cs.dropWhile Char.isDigit
    | cs => cs
  some ((hour, minute, second), rest)

/-- The offset of a zone at the end of a text; the first zone need not be written. -/
def readZone? (s : List Char) : Option Nat :=
  match s.dropWhile isGap with
  | [] => if s.isEmpty then some 0 else none
  | ['Z'] => some 0
  | c :: cs =>
    if c == '+' || c == '-' then do
      let (hours, rest) ← readDigits? 1 2 cs
      if rest.isEmpty then some (60 * hours)
      else
        let rest ← skip? ':' rest
        let (minutes, rest) ← readDigits? 2 2 rest
        if rest.isEmpty then some (60 * hours + minutes) else none
    else none

def ofDate? (s : List Char) : Option Timestamp :=
  match readDate? false s with
  | some (date, []) => some date
  | _ => none

def ofDateTime? (s : List Char) : Option Timestamp := do
  let (date, s) ← readDate? true s
  let s ← skipGap? s
  let (time, s) ← readTime? s
  let offset ← readZone? s
  some { date with time? := some time, offset := offset }

/-- The date that a plain scalar writes. -/
def read? (s : List Char) : Option Timestamp :=
  (ofDate? s).orElse fun _ => ofDateTime? s

end Timestamp

end Scaffold.Yaml
