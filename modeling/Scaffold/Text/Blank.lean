import Scaffold.Text.Cut

namespace Scaffold.Text

/-!
# Blanks

Blank characters are spaces, line ends and the control characters that
separate fields. Trimming removes them at both ends and `fields` lists the
runs between them.
-/

/-- Blank characters above ASCII. -/
def wideBlanks : List Char :=
  ['\x85', '\xa0', '\u1680', '\u2000', '\u2001', '\u2002', '\u2003', '\u2004', '\u2005', '\u2006',
    '\u2007', '\u2008', '\u2009', '\u200a', '\u2028', '\u2029', '\u202f', '\u205f', '\u3000']

/-- Spaces, line ends and separators. -/
def isBlank (c : Char) : Bool :=
  if c.val < 128 then c == ' ' || 9 ≤ c.val && c.val ≤ 13 || 28 ≤ c.val && c.val ≤ 31
  else c ∈ wideBlanks

def trimStart (s : List Char) : List Char :=
  s.dropWhile isBlank

def trimEnd (s : List Char) : List Char :=
  (s.reverse.dropWhile isBlank).reverse

/-- The text without the blanks at its ends. -/
def trim (s : List Char) : List Char :=
  trimEnd (trimStart s)

/-- The non-empty runs of characters between blanks. -/
def fields (s : List Char) : List (List Char) :=
  runs isBlank s

end Scaffold.Text
