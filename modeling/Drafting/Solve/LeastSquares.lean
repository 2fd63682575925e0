import Drafting.Solve.Singular

/-!
# Least squares

A diagnosis asks for the coefficients of a vector as a combination of columns. Which of several
combinations is found, how close it comes and when the computation fails is a matter of the linear
algebra that is at hand, so a diagnosis takes it as it is given. One that computes takes the
shortest of the nearest combinations.
-/

namespace Drafting

/-- A way to find coefficients, one for each column, that bring a combination of the columns nearest
to a vector, unless the computation fails. -/
abbrev LeastSquares := (columns : List (List Float)) → (vector : List Float) → Option (List Float)

/-- The part of the strongest direction of some columns up to which others count as none. -/
def negligiblePart (columns : List (List Float)) (vector : List Float) : Float :=
  2.220446049250313e-16 * (max columns.length vector.length).toFloat

/-- The shortest coefficients that bring a combination of columns nearest to a vector. Entries that
are not finite leave the computation without a result. -/
def shortestCombination : LeastSquares := fun columns vector =>
  if (vector :: columns).all (·.all Float.isFinite) then
    some (shortestSolution columns.length (negligiblePart columns vector)
      (transposed vector.length columns) vector)
  else none

end Drafting
