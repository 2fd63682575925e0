import Drafting.Solve.LineSearch

/-!
# Descent with a learned curvature

A function is lowered along directions in which its gradient is corrected for the curvature learned
so far. Of the curvature only the inverse is kept; every step adds what the change of the gradient
along it tells.
-/

namespace Drafting

/-- A function with its gradient. -/
structure Smooth where
  value : List Float → Trial Float
  gradient : List Float → Trial (List Float)

/-- Half the sum of the squares of some rows. -/
def Smooth.ofRows (rows : Looking) (quotientStep : Float) : Smooth where
  value x := return halfSquare (← rows x)
  gradient x := do
    let values ← rows x
    return weightedSum x.length values (← differenceQuotients rows x quotientStep)

/-- A function along a direction from a point. -/
def Smooth.along (f : Smooth) (x direction : List Float) : AlongLine where
  value step := f.value (vectorSum x (scaled step direction))
  slope step := do
    let gradient ← f.gradient (vectorSum x (scaled step direction))
    return (innerProduct gradient direction, gradient)

namespace QuasiNewton

/-- The identity. -/
def identity (width : Nat) : List (List Float) :=
  (List.range width).map (axisVector width · 1.0)

/-- The product of a matrix and a vector. -/
def apply (matrix : List (List Float)) (v : List Float) : List Float := matrix.map (innerProduct v)

/-- The product of two matrices. -/
def product (a b : List (List Float)) : List (List Float) :=
  a.map fun row => weightedSum ((b.head?.map (·.length)).getD 0) row b

/-- The identity less a multiple of the products of the entries of two vectors. -/
def lessOuter (factor : Float) (u v : List Float) : List (List Float) :=
  u.zipIdx.map fun (a, place) =>
    vectorDifference (axisVector v.length place 1.0) (v.map fun b => a * b * factor)

/-- The inverse curvature after a step along which the gradient changed. -/
def learned (inverse : List (List Float)) (move change : List Float) : List (List Float) :=
  let along := innerProduct change move
  let factor := if along == 0.0 then 1000.0 else 1.0 / along
  let middle := product inverse (lessOuter factor change move)
  List.zipWith vectorSum (product (lessOuter factor move change) middle)
    (move.map fun a => move.map fun b => factor * a * b)

/-- Where a search stands. -/
structure Stand where
  x : List Float
  value : Float
  gradient : List Float
  /-- The value before the last step. -/
  before : Float
  inverse : List (List Float)
  steps : Nat

/-- Take steps from a stand as long as the gradient is above a tolerance and the budget lasts. -/
def search (f : Smooth) (tolerance : Float) : (budget : Nat) → Stand → Trial Stand
  | 0, s => return s
  | budget + 1, s => do
    if !(tolerance < maxAbs s.gradient) then return s
    let direction := (apply s.inverse s.gradient).map (- ·)
    let start : Probe := ⟨0.0, s.value, innerProduct s.gradient direction⟩
    match ← searchLine (f.along s.x direction) start s.before with
    | none => return s
    | some found =>
      let move := scaled found.step direction
      let x := vectorSum s.x move
      let gradient ←
        match found.gradient with
        | some gradient => pure gradient
        | none => f.gradient x
      let next : Stand :=
        { x, gradient, value := found.value, before := s.value, inverse := s.inverse
          steps := s.steps + 1 }
      if maxAbs gradient ≤ tolerance || found.step * vectorNorm direction ≤ 0.0 ||
          !found.value.isFinite then
        return next
      search f tolerance budget
        { next with inverse := learned s.inverse move (vectorDifference gradient s.gradient) }

/-- Descend from a start with a budget of steps. -/
def run (f : Smooth) (tolerance : Float) (start : List Float) (budget : Nat) : Trial Stand := do
  let value ← f.value start
  let gradient ← f.gradient start
  search f tolerance budget
    { x := start, value, gradient, before := value + vectorNorm gradient / 2.0
      inverse := identity start.length, steps := 0 }

end QuasiNewton

end Drafting
