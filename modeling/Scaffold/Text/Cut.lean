namespace Scaffold.Text

/-!
# Cutting texts

Cutting at the first occurrence of a mark, and at every occurrence of a
separating character. Both are lossless: the pieces and the marks between
them give the text back.
-/

/-- The text before and after the first occurrence of `mark`. -/
def cutAt? (mark : List Char) : List Char → Option (List Char × List Char)
  | [] => if mark.isEmpty then some ([], []) else none
  | c :: cs =>
    if mark.isPrefixOf (c :: cs) then some ([], (c :: cs).drop mark.length)
    else (cutAt? mark cs).map fun (before, after) => (c :: before, after)

/-- The pieces between the occurrences of a character; never the empty list. -/
def splitOn (sep : Char) : List Char → List (List Char)
  | [] => [[]]
  | c :: cs =>
    if c = sep then [] :: splitOn sep cs
    else
      match splitOn sep cs with
      | [] => [[c]]
      | piece :: pieces => (c :: piece) :: pieces

theorem splitOn_ne_nil (sep : Char) (s : List Char) : splitOn sep s ≠ [] := by
  induction s with
  | nil => simp [splitOn]
  | cons c cs _ =>
    by_cases h : c = sep
    · simp [splitOn, h]
    · simp only [splitOn, h, ↓reduceIte]
      split <;> simp

theorem not_mem_of_mem_splitOn {sep : Char} {s piece : List Char} (h : piece ∈ splitOn sep s) :
    sep ∉ piece := by
  induction s generalizing piece with
  | nil => simp_all [splitOn]
  | cons c cs ih =>
    by_cases hc : c = sep
    · simp only [splitOn, hc, ↓reduceIte, List.mem_cons] at h
      rcases h with rfl | h
      · simp
      · exact ih h
    · have hs : ¬ sep = c := fun e => hc e.symm
      simp only [splitOn, hc, ↓reduceIte] at h
      cases hp : splitOn sep cs with
      | nil =>
        rw [hp] at h
        simp_all
      | cons p ps =>
        rw [hp] at h ih
        rcases List.mem_cons.1 h with rfl | h
        · simpa [hs] using ih (List.mem_cons_self ..)
        · exact ih (List.mem_cons_of_mem _ h)

/-- The runs of characters that `separates` leaves between its own, `current` being the run so
far, last character first. -/
def runsFrom (separates : Char → Bool) (current : List Char) : List Char → List (List Char)
  | [] => if current.isEmpty then [] else [current.reverse]
  | c :: cs =>
    if separates c then
      if current.isEmpty then runsFrom separates [] cs
      else current.reverse :: runsFrom separates [] cs
    else runsFrom separates (c :: current) cs

/-- The non-empty runs of characters between separating ones. -/
def runs (separates : Char → Bool) (s : List Char) : List (List Char) :=
  runsFrom separates [] s

/-- Pieces put together again with the separating character between them. -/
def joinWith (sep : List Char) : List (List Char) → List Char
  | [] => []
  | [piece] => piece
  | piece :: pieces => piece ++ sep ++ joinWith sep pieces

theorem joinWith_splitOn (sep : Char) (s : List Char) : joinWith [sep] (splitOn sep s) = s := by
  induction s with
  | nil => rfl
  | cons c cs ih =>
    have hne := splitOn_ne_nil sep cs
    by_cases hc : c = sep
    · simp only [splitOn, hc, ↓reduceIte]
      cases hs : splitOn sep cs with
      | nil => exact absurd hs hne
      | cons p ps =>
        rw [hs] at ih
        simp [joinWith, ih]
    · simp only [splitOn, hc, ↓reduceIte]
      cases hs : splitOn sep cs with
      | nil => exact absurd hs hne
      | cons p ps =>
        rw [hs] at ih
        cases ps with
        | nil => simp_all [joinWith]
        | cons q qs => simp_all [joinWith]

end Scaffold.Text
