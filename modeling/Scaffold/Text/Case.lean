import Scaffold.Text.CaseTables
import Scaffold.Text.Letter

namespace Scaffold.Text

/-!
# Changing case

The case of a text is changed character by character with the full
mappings: one character may become several, and a capital sigma becomes a
final sigma at the end of a word.
-/

/-- The character that a case run sends `n` to, if it covers `n`. -/
def CaseRun.image? (r : CaseRun) (n : Nat) : Option Char :=
  if r.first ≤ n && n ≤ r.last && (n - r.first) % r.step == 0 then
    some (Char.ofNat (Int.toNat (n + r.shift)))
  else none

/-- Full mapping of a character above ASCII: the special images first, then the runs. -/
def mapThrough (special : Array (Nat × List Nat)) (runs : Array CaseRun) (c : Char) : List Char :=
  match special.find? (·.1 == c.toNat) with
  | some (_, image) => image.map Char.ofNat
  | none =>
    match runs.findSome? (·.image? c.toNat) with
    | some d => [d]
    | none => [c]

def lowerChar (c : Char) : List Char :=
  if c.val < 128 then [c.toLower] else mapThrough CaseTables.lowerSpecial CaseTables.lower c

def upperChar (c : Char) : List Char :=
  if c.val < 128 then [c.toUpper] else mapThrough CaseTables.upperSpecial CaseTables.upper c

/-- The titlecase image of a character, as it begins a capitalised word. -/
def titleChar (c : Char) : List Char :=
  if c.val < 128 then [c.toUpper]
  else
    match CaseTables.titleSpecial.find? (·.1 == c.toNat) with
    | some (_, image) => image.map Char.ofNat
    | none => upperChar c

/-- Does a cased letter come next, case-ignorable characters looked through? -/
def casedAhead : List Char → Bool
  | [] => false
  | c :: cs => if isCaseIgnorable c then casedAhead cs else isCasedLetter c

/-- Is the last character that is not case-ignorable a cased letter, `before` standing for the
text in front of `c`? -/
def casedThrough (before : Bool) (c : Char) : Bool :=
  if isCaseIgnorable c then before else isCasedLetter c

/-- Lower case of a text that follows a cased letter when `before` holds. A capital sigma is
final when a cased letter stands before it and none after. -/
def lowerAfter (before : Bool) : List Char → List Char
  | [] => []
  | c :: cs =>
    let image :=
      if c == 'Σ' then [if before && !casedAhead cs then 'ς' else 'σ'] else lowerChar c
    image ++ lowerAfter (casedThrough before c) cs

def lower (s : List Char) : List Char :=
  lowerAfter false s

def upper (s : List Char) : List Char :=
  s.flatMap upperChar

/-- A titlecase first character, the rest in lower case. -/
def capitalize : List Char → List Char
  | [] => []
  | c :: cs => titleChar c ++ lowerAfter (casedThrough false c) cs

/-- At least one uppercase character and none in lower or title case. -/
def isAllUpper (s : List Char) : Bool :=
  s.any isUpper && s.all fun c => !isLower c && !isTitle c

@[simp] theorem lowerAfter_nil (before : Bool) : lowerAfter before [] = [] := rfl

@[simp] theorem upper_nil : upper [] = [] := rfl

@[simp] theorem upper_append (s t : List Char) : upper (s ++ t) = upper s ++ upper t := by
  simp [upper]

end Scaffold.Text
