namespace Scaffold

/-!
# Positions in a source

A position counts characters from the start of a text, and lines and
columns from one. It is found by reading the text up to it.
-/

/-- A place in a source text. -/
structure Position where
  offset : Nat
  line : Nat
  column : Nat
  deriving DecidableEq, Repr, Inhabited

namespace Position

def start : Position := ⟨0, 1, 1⟩

/-- The position behind one more character. -/
def step (p : Position) (c : Char) : Position :=
  if c = '\n' then ⟨p.offset + 1, p.line + 1, 1⟩ else ⟨p.offset + 1, p.line, p.column + 1⟩

/-- The position behind a text that starts here. -/
def advance (p : Position) (s : List Char) : Position :=
  s.foldl step p

def text (p : Position) : String :=
  s!"line {p.line}, column {p.column}"

@[simp] theorem advance_nil (p : Position) : p.advance [] = p := rfl

@[simp] theorem advance_cons (p : Position) (c : Char) (s : List Char) :
    p.advance (c :: s) = (p.step c).advance s := rfl

@[simp] theorem advance_append (p : Position) (s t : List Char) :
    p.advance (s ++ t) = (p.advance s).advance t := by
  simp [advance, List.foldl_append]

@[simp] theorem advance_offset (p : Position) (s : List Char) :
    (p.advance s).offset = p.offset + s.length := by
  induction s generalizing p with
  | nil => simp
  | cons c s ih =>
    rw [advance_cons, ih]
    by_cases h : c = '\n' <;> simp [step, h] <;> omega

end Position

end Scaffold
