/-
# Sets of code points

A set of code points given by its maximal runs. The bounds of the runs are kept in one
increasing array, `first, last, first, last, …`, so that membership is one bisection.
-/

namespace Rowsmith.Text

/-- A set of code points, as the bounds of its maximal runs in increasing order. -/
structure CodePoints where
  bounds : Array Nat

namespace CodePoints

/-- Number of runs. -/
def runs (s : CodePoints) : Nat :=
  s.bounds.size / 2

/-- First code point of the run at position `i`. -/
def first (s : CodePoints) (i : Nat) : Nat :=
  s.bounds.getD (2 * i) 0

/-- Last code point of the run at position `i`. -/
def last (s : CodePoints) (i : Nat) : Nat :=
  s.bounds.getD (2 * i + 1) 0

/-- Number of runs among those from `lo` up to `hi` that start at or before `n`, added to `lo`. -/
def bisect (s : CodePoints) (n lo hi : Nat) : Nat :=
  if lo < hi then
    let mid := (lo + hi) / 2
    if s.first mid ≤ n then s.bisect n (mid + 1) hi else s.bisect n lo mid
  else lo
termination_by hi - lo

/-- Whether the code point `n` lies in a run. -/
def contains (s : CodePoints) (n : Nat) : Bool :=
  let i := s.bisect n 0 s.runs
  i ≠ 0 && n ≤ s.last (i - 1)

end CodePoints

end Rowsmith.Text
