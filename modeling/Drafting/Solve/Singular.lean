import Drafting.Solve.Orthogonal

/-!
# Vectors turned orthogonal

Some vectors are turned against each other, two at a time in the plane that they span, until all
are orthogonal. Each vector has a companion that is combined in the same way, so at the end the
companions tell how the orthogonal vectors come from the given ones. The lengths of the orthogonal
vectors measure how independent the given ones were: a length of nearly zero is a direction in which
they have nothing.

With orthogonal vectors, linear equations are solved in the sense of least squares by the shortest
vector that does so.
-/

namespace Drafting

/-- A vector that is turned, and what is combined along with it. -/
structure Turned where
  vector : List Float
  companion : List Float

namespace Turned

/-- A combination of two turned vectors. -/
def combine (a : Float) (s : Turned) (b : Float) (t : Turned) : Turned :=
  ⟨List.zipWith (fun x y => a * x + b * y) s.vector t.vector,
    List.zipWith (fun x y => a * x + b * y) s.companion t.companion⟩

/-- The length of a turned vector. -/
def length (t : Turned) : Float := vectorNorm t.vector

end Turned

/-- The cosine of an angle between vectors up to which they count as orthogonal. -/
def orthogonalCosine : Float := 1e-15

/-- Whether two vectors are orthogonal. -/
def areOrthogonal (s t : Turned) : Bool :=
  (innerProduct s.vector t.vector).abs ≤ orthogonalCosine * (s.length * t.length)

/-- Turn two vectors in their plane by the angle that makes them orthogonal. -/
def turnPair (s t : Turned) : Turned × Turned :=
  if areOrthogonal s t then (s, t)
  else
    let first := innerProduct s.vector s.vector
    let second := innerProduct t.vector t.vector
    let ratio := (second - first) / (2.0 * innerProduct s.vector t.vector)
    let reach := ratio.abs + (1.0 + ratio * ratio).sqrt
    let tangent := if ratio < 0.0 then -1.0 / reach else 1.0 / reach
    let cosine := 1.0 / (1.0 + tangent * tangent).sqrt
    let sine := cosine * tangent
    (.combine cosine s (-sine) t, .combine sine s cosine t)

/-- Turn a vector against several others, one after the other. -/
def turnAgainst (s : Turned) : List Turned → Turned × List Turned
  | [] => (s, [])
  | t :: rest =>
    let (s, t) := turnPair s t
    let (s, rest) := turnAgainst s rest
    (s, t :: rest)

/-- Turn every pair of vectors once. -/
def turnAll : List Turned → List Turned
  | [] => []
  | s :: rest =>
    let (s, rest) := turnAgainst s (turnAll rest)
    s :: rest

/-- Whether all vectors are orthogonal to each other. -/
def allOrthogonal : List Turned → Bool
  | [] => true
  | s :: rest => rest.all (areOrthogonal s) && allOrthogonal rest

/-- Turn all pairs again until the vectors are orthogonal or the rounds are used up. -/
def orthogonalised : (rounds : Nat) → List Turned → List Turned
  | 0, vectors => vectors
  | rounds + 1, vectors =>
    if allOrthogonal vectors then vectors else orthogonalised rounds (turnAll vectors)

/-- How often all pairs are turned at most. -/
def turningRounds : Nat := 40

/-- Vectors turned orthogonal. -/
def orthogonalVectors (vectors : List Turned) : List Turned :=
  orthogonalised turningRounds vectors

/-- The length of the longest of some vectors. -/
def longest (vectors : List Turned) : Float := maxAbs (vectors.map Turned.length)

/-- The vectors whose length exceeds a part of the longest. -/
def substantial (cutoff : Float) (vectors : List Turned) : List Turned :=
  let limit := cutoff * longest vectors
  vectors.filter fun t => limit < t.length

/-- Rows with their targets as companions. -/
def targetedRows (rows : List (List Float)) (target : List Float) : List Turned :=
  List.zipWith (fun row value => ⟨row, [value]⟩) rows target

/-- Columns with the axes of the unknowns as companions. -/
def axisColumns (width : Nat) (rows : List (List Float)) : List Turned :=
  (transposed width rows).zipIdx.map fun (column, place) => ⟨column, axisVector width place 1.0⟩

/-- The shortest of the vectors that bring linear rows nearest to a target. Directions in which the
rows have no more than a part of what they have in the strongest one are left out. -/
def shortestSolution (width : Nat) (cutoff : Float) (rows : List (List Float))
    (target : List Float) : List Float :=
  if rows.length < width then
    let kept := substantial cutoff (orthogonalVectors (targetedRows rows target))
    weightedSum width (kept.map fun t => t.companion.headD 0.0 / t.length / t.length)
      (kept.map Turned.vector)
  else
    let kept := substantial cutoff (orthogonalVectors (axisColumns width rows))
    weightedSum width (kept.map fun t => innerProduct t.vector target / t.length / t.length)
      (kept.map Turned.companion)

/-- The solution of linear rows in the sense of least squares, if no direction falls short. -/
def definiteSolution? (width : Nat) (cutoff : Float) (rows : List (List Float))
    (target : List Float) : Option (List Float) :=
  let turned := orthogonalVectors (axisColumns width rows)
  if (substantial cutoff turned).length < width then none
  else
    some (weightedSum width (turned.map fun t => innerProduct t.vector target / t.length / t.length)
      (turned.map Turned.companion))

/-- Turning keeps the count of vectors. -/
@[simp] theorem length_turnAgainst (s : Turned) (others : List Turned) :
    (turnAgainst s others).2.length = others.length := by
  induction others generalizing s with
  | nil => rfl
  | cons t rest ih => simp [turnAgainst, ih]

/-- Turning all pairs keeps the count of vectors. -/
@[simp] theorem length_turnAll (vectors : List Turned) :
    (turnAll vectors).length = vectors.length := by
  induction vectors with
  | nil => rfl
  | cons s rest ih => simp [turnAll, ih]

end Drafting
