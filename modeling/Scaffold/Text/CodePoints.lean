namespace Scaffold.Text

/-!
# Sets of code points

A set of code points is kept as its edges: the code points, in
increasing order, at which membership changes. A code point is in the
set when an odd number of edges lies at or below it.
-/

/-- A set of code points, given by its edges in increasing order. -/
structure CodePoints where
  edges : Array Nat

namespace CodePoints

/-- How many of the edges at the places `lo` to `hi` lie at or below `n`, plus `lo`. -/
def rankBetween (edges : Array Nat) (n lo hi : Nat) : Nat :=
  if lo < hi then
    let mid := (lo + hi) / 2
    if edges.getD mid 0 ≤ n then rankBetween edges n (mid + 1) hi
    else rankBetween edges n lo mid
  else lo
termination_by hi - lo

def contains (s : CodePoints) (n : Nat) : Bool :=
  rankBetween s.edges n 0 s.edges.size % 2 == 1

end CodePoints

end Scaffold.Text
